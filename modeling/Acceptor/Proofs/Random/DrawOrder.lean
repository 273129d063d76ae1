import Acceptor.Proofs.Random.Completeness
import Mathlib.Logic.Function.Iterate

/-! # The order of random draws

All draws of a random automaton come from one source, and what is drawn depends on how many draws of
which kind came before. The draws that settle acceptance come first, one for each state whatever the
probability is (`acceptance_stateIds`); the targets come after them, row by row through the table of
states and letters (`nameEdges_drawnEdges`). So the probability has no bearing on the transitions,
and the number of letters none on which states accept (`acceptance_is_drawn_first`).
-/

namespace List

/-- Where the rows of a table are equally long, its entries are numbered row by row. -/
theorem mapIdx_flatMap_range {α β : Type} (entry : Nat → Nat → α) (count : Nat → α → β)
    (rows columns : Nat) :
    ((range rows).flatMap fun row => (range columns).map (entry row)).mapIdx count =
      (range rows).flatMap fun row => (range columns).map fun column =>
        count (row * columns + column) (entry row column) := by
  induction rows with
  | zero => rfl
  | succ rows ih =>
    have before : ((range rows).flatMap fun row =>
        (range columns).map (entry row)).length = rows * columns := by
      simp [length_flatMap]
    simp only [range_succ, flatMap_append, flatMap_singleton]
    rw [mapIdx_append, ih, before]
    refine congrArg _ (ext_getElem ?_ fun column _ _ => ?_)
    · simp
    · simp [Nat.add_comm]

end List

namespace Acceptor

namespace DrawSource

variable {σ α β γ : Type}

/-- The source after as many draws. -/
def after (draw : σ → α × σ) (turns : Nat) (source : σ) : σ :=
  (fun source => (draw source).2)^[turns] source

/-- What is drawn after as many other draws of the kind. -/
def drawnAt (draw : σ → α × σ) (turn : Nat) (source : σ) : α := (draw (after draw turn source)).1

/-- Each value of many is the one whose turn it is, and each draw starts where the one before it
has left the source. -/
theorem many_eq (draw : σ → α × σ) (count : Nat) (source : σ) :
    many draw count source =
      ((List.range count).map fun turn => drawnAt draw turn source, after draw count source) := by
  induction count generalizing source with
  | zero => rfl
  | succ count ih =>
    rw [many, ih, List.range_succ_eq_map, List.map_cons, List.map_map]
    rfl

/-- Each value is paired off with the draw whose turn it is. -/
theorem zipWith_many (draw : σ → α × σ) (combine : β → α → γ) (values : List β) (source : σ) :
    List.zipWith combine values (many draw values.length source).1 =
      values.mapIdx fun turn value => combine value (drawnAt draw turn source) := by
  rw [many_eq]
  refine List.ext_getElem ?_ fun turn _ _ => ?_ <;> simp

end DrawSource

open DrawSource

namespace Random

open Builder

variable {σ : Type} [DrawSource σ]

/-- The acceptance of a state is settled in its turn. -/
theorem acceptance_stateIds (size : Nat) (probability : Float) (source : σ) :
    (acceptance probability (stateIds size) source).1 =
      ((List.range size).filter fun number =>
        drawnAt unit number source < probability).map fun number => ⟨"q" ++ toString number⟩ := by
  have paired : (stateIds size).zip (many unit (stateIds size).length source).1 =
      (List.range size).map fun number => (.numbered number, drawnAt unit number source) := by
    rw [List.zip_eq_zipWith, zipWith_many]
    refine List.ext_getElem ?_ fun number _ _ => ?_ <;> simp [stateIds]
  rw [acceptance, paired, List.filter_map, List.map_map]
  rfl

/-- What is left of the source once acceptance is settled does not depend on the probability. -/
theorem left_acceptance_stateIds (size : Nat) (probability : Float) (source : σ) :
    (acceptance probability (stateIds size) source).2 = after unit size source := by
  rw [acceptance, stateIds, List.length_map, List.length_range, many_eq]

theorem situations_stateIds_letters (size symbols : Nat) :
    situations (stateIds size) (Alphabet.letters symbols) =
      (List.range size).flatMap fun row => (List.range symbols).map fun column =>
        ⟨.numbered row, Alphabet.letter column⟩ := by
  simp [situations, stateIds, Alphabet.letters, List.flatMap_map, Function.comp_def]

/-- What is left after all targets have been drawn. -/
theorem left_drawnEdges (symbols size : Nat) (probability : Float) (source : σ) :
    (drawnEdges symbols size probability source).2 =
      after (below size) (size * symbols) (after unit size source) := by
  have table : (situations (stateIds size) (Alphabet.letters symbols)).length = size * symbols := by
    simp [length_situations, stateIds, Alphabet.letters]
  rw [drawnEdges, edges, left_acceptance_stateIds, table, many_eq]

/-- The transition of a state on a letter, with the name and the target whose turn it is when the
table of states and letters is gone through row by row. -/
def drawnTransition (symbols size : Nat) (source : σ) (row column : Nat) : Transition where
  id := ⟨"t" ++ toString (row * symbols + column)⟩
  source := ⟨"q" ++ toString row⟩
  symbol := Char.ofNat ('a'.toNat + column)
  target := ⟨"q" ++ toString (drawnAt (below size) (row * symbols + column) source)⟩

/-- The targets are drawn row by row, after all that settles acceptance. -/
theorem nameEdges_drawnEdges (symbols size : Nat) (probability : Float) (source : σ) :
    nameEdges .standard (drawnEdges symbols size probability source).1 =
      (List.range size).flatMap fun row => (List.range symbols).map fun column =>
        drawnTransition symbols size (after unit size source) row column := by
  rw [drawnEdges, edges, left_acceptance_stateIds, zipWith_many, nameEdges_eq_mapIdx,
    List.mapIdx_mapIdx, situations_stateIds_letters, List.mapIdx_flatMap_range]
  simp only [TokenSource.standard, TokenSource.withStem, TokenSource.tokenAt,
    Nat.zero_add, Function.comp_apply]
  rfl

/-- A random automaton in terms of what is drawn when. -/
theorem exists_automaton_drawnAt {symbols size : Nat} (few : symbols ≤ 26) (inhabited : 0 < size)
    (probability : Float) (source : σ) :
    ∃ automaton, Random.automaton symbols size probability source =
        .ok (automaton, after (below size) (size * symbols) (after unit size source)) ∧
      automaton.accepting = ((List.range size).filter fun number =>
        drawnAt unit number source < probability).map (fun number => ⟨"q" ++ toString number⟩) ∧
      automaton.transitions =
        (List.range size).flatMap fun row => (List.range symbols).map fun column =>
          drawnTransition symbols size (after unit size source) row column := by
  have built := automaton_eq_ofParts few inhabited probability source
  rw [left_drawnEdges] at built
  exact ⟨_, built, acceptance_stateIds size probability source,
    nameEdges_drawnEdges symbols size probability source⟩

end Random

/-- The draws that settle which states accept come first, one for each state, and the targets after
them, state by state and letter by letter. In particular the transitions are the same for every
probability, and so is what is left of the source; and the accepting states are the same for every
number of letters. -/
theorem acceptance_is_drawn_first {σ : Type} [DrawSource σ] {size : Nat} (inhabited : 0 < size)
    (source : σ) :
    (∀ symbols ≤ 26, ∀ probability : Float, ∃ automaton,
      Random.automaton symbols size probability source =
        .ok (automaton, after (below size) (size * symbols) (after unit size source)) ∧
      automaton.accepting = ((List.range size).filter fun number =>
        drawnAt unit number source < probability).map (fun number => ⟨"q" ++ toString number⟩) ∧
      automaton.transitions =
        (List.range size).flatMap fun row => (List.range symbols).map fun column =>
          Random.drawnTransition symbols size (after unit size source) row column) ∧
    (∀ symbols ≤ 26, ∀ probability likelihood : Float, ∃ automaton other left,
      Random.automaton symbols size probability source = .ok (automaton, left) ∧
      Random.automaton symbols size likelihood source = .ok (other, left) ∧
      automaton.transitions = other.transitions) ∧
    ∀ probability : Float, ∀ symbols ≤ 26, ∀ letters ≤ 26, ∃ automaton other left right,
      Random.automaton symbols size probability source = .ok (automaton, left) ∧
      Random.automaton letters size probability source = .ok (other, right) ∧
      automaton.accepting = other.accepting := by
  refine ⟨?_, ?_, ?_⟩
  · exact fun symbols few probability =>
      Random.exists_automaton_drawnAt few inhabited probability source
  · intro symbols few probability likelihood
    obtain ⟨automaton, does, -, transitions⟩ :=
      Random.exists_automaton_drawnAt few inhabited probability source
    obtain ⟨other, also, -, same⟩ :=
      Random.exists_automaton_drawnAt few inhabited likelihood source
    exact ⟨automaton, other, _, does, also, transitions.trans same.symm⟩
  · intro probability symbols few letters fewer
    obtain ⟨automaton, does, accepting, -⟩ :=
      Random.exists_automaton_drawnAt few inhabited probability source
    obtain ⟨other, also, same, -⟩ :=
      Random.exists_automaton_drawnAt fewer inhabited probability source
    exact ⟨automaton, other, _, _, does, also, accepting.trans same.symm⟩

/-- The first draw is 0.77…, the second 0.22… and the third 0.71…, whatever is to come of them. -/
theorem acceptance_is_drawn_first_seeded :
    0 < 3 ∧ 2 ≤ 26 ∧ 5 ≤ 26 ∧
    (∃ automaton,
      Random.automaton 2 3 0.25 (⟨7⟩ : Generator) = .ok (automaton, ⟨10872248267090968020⟩) ∧
      automaton.accepting = [⟨"q1"⟩] ∧
      automaton.transitions =
        [⟨⟨"t0"⟩, ⟨"q0"⟩, 'a', ⟨"q1"⟩⟩, ⟨⟨"t1"⟩, ⟨"q0"⟩, 'b', ⟨"q0"⟩⟩,
          ⟨⟨"t2"⟩, ⟨"q1"⟩, 'a', ⟨"q0"⟩⟩, ⟨⟨"t3"⟩, ⟨"q1"⟩, 'b', ⟨"q2"⟩⟩,
          ⟨⟨"t4"⟩, ⟨"q2"⟩, 'a', ⟨"q0"⟩⟩, ⟨⟨"t5"⟩, ⟨"q2"⟩, 'b', ⟨"q0"⟩⟩]) ∧
    (∃ automaton other left,
      Random.automaton 2 3 0.25 (⟨7⟩ : Generator) = .ok (automaton, left) ∧
      Random.automaton 2 3 0.75 (⟨7⟩ : Generator) = .ok (other, left) ∧
      automaton.transitions = other.transitions) ∧
    ∃ automaton other left right,
      Random.automaton 2 3 0.5 (⟨7⟩ : Generator) = .ok (automaton, left) ∧
      Random.automaton 5 3 0.5 (⟨7⟩ : Generator) = .ok (other, right) ∧
      automaton.accepting = other.accepting := by
  have three : 0 < 3 := by decide
  have two : 2 ≤ 26 := by decide
  have five : 5 ≤ 26 := by decide
  obtain ⟨order, probabilities, letters⟩ := acceptance_is_drawn_first three (⟨7⟩ : Generator)
  refine ⟨three, two, five, ?_, probabilities 2 two 0.25 0.75, letters 0.5 2 two 5 five⟩
  obtain ⟨automaton, does, accepting, transitions⟩ := order 2 two 0.25
  have left : after (below 3) (3 * 2) (after unit 3 (⟨7⟩ : Generator)) =
      ⟨10872248267090968020⟩ := by
    decide +kernel
  rw [left] at does
  refine ⟨automaton, does, accepting.trans ?_, transitions.trans ?_⟩
  · decide +kernel
  · decide +kernel

end Acceptor
