import Acceptor.Proofs.Building.Assembly
import Acceptor.Proofs.Run.Validated
import Acceptor.Random.Automaton
import Mathlib.Data.List.ProdSigma

/-! # Random automata are complete

Whatever is drawn, the edges of a random automaton run through all states and letters once, so it is
`Automaton.Complete`: each state has exactly one transition on each letter. Validation has nothing
to say about such an automaton unless it has no letters at all, and no word over its letters gets
stuck in it. Random words are such words, of a length in the range that was asked for
(`random_automata_complete`).
-/

namespace Acceptor

namespace Automaton

/-- Each state has one transition on each symbol, back to the states, and there are no others. -/
structure Complete (automaton : Automaton) : Prop where
  initial : automaton.initial ∈ automaton.stateIds
  unique : automaton.stateIds.Nodup
  accepting : automaton.accepting.Sublist automaton.stateIds
  within : ∀ transition ∈ automaton.transitions, transition.source ∈ automaton.stateIds ∧
    transition.symbol ∈ automaton.alphabet.symbols ∧ transition.target ∈ automaton.stateIds
  served : ∀ state ∈ automaton.stateIds, ∀ symbol ∈ automaton.alphabet.symbols,
    ∃! transition, transition ∈ automaton.transitions ∧ transition.situation = ⟨state, symbol⟩
  distinct : (automaton.transitions.map Transition.id).Nodup

namespace Complete

variable {automaton : Automaton}

theorem wellFormed (complete : automaton.Complete) : automaton.WellFormed where
  initial := complete.initial
  accepting id accepts := complete.accepting.subset accepts
  unique := complete.unique
  source transition listed := (complete.within transition listed).1
  symbol transition listed := (complete.within transition listed).2.1
  target transition listed := (complete.within transition listed).2.2
  deterministic := by
    refine (List.pairwise_map.mp complete.distinct).imp_of_mem ?_
    rintro earlier later before behind different ⟨source, symbol⟩
    obtain ⟨known, spelled, -⟩ := complete.within later behind
    obtain ⟨only, -, unique⟩ := complete.served _ known _ spelled
    have alike : earlier.situation = ⟨later.source, later.symbol⟩ := by
      rw [Transition.situation, source, symbol]
    have same : earlier = later := (unique _ ⟨before, alike⟩).trans (unique _ ⟨behind, rfl⟩).symm
    exact different (congrArg Transition.id same)

theorem unserved_eq_nil (complete : automaton.Complete) : automaton.unserved = [] := by
  refine List.eq_nil_iff_forall_not_mem.mpr fun ⟨state, symbol⟩ missing => ?_
  obtain ⟨known, spelled, free⟩ := mem_unserved_iff.mp missing
  obtain ⟨transition, ⟨listed, serves⟩, -⟩ := complete.served state known symbol spelled
  exact firstTarget?_eq_none_iff.mp free transition listed (Situation.mk.inj serves)

theorem value_validate (complete : automaton.Complete) :
    automaton.validate.value =
      ⟨[], if automaton.alphabet.symbols = [] then [.emptyAlphabet] else []⟩ := by
  apply value_validate_eq
  · exact defects_eq_nil_iff.mpr complete.wellFormed
  · rw [warnings_validate, omissions, complete.unserved_eq_nil]
    exact List.append_nil _

/-- No word over its symbols gets stuck in a complete automaton. -/
theorem completes (complete : automaton.Complete) {word : Word}
    (spelled : automaton.alphabet.Spells word) :
    ((automaton.judge word).value.outcome = .accepted ∨
      ∃ state, (automaton.judge word).value.outcome = .rejected state) ∧
    (automaton.judge word).value.remaining = [] ∧
    (automaton.judge word).value.path.length = word.length + 1 := by
  refine completes_of_unwarned complete.wellFormed (fun state symbol warned => ?_) spelled
  obtain ⟨known, listed, free⟩ := missingTransition_mem_warnings_iff.mp warned
  have missing := mem_unserved_iff.mpr ⟨known, listed, free⟩
  rw [complete.unserved_eq_nil] at missing
  cases missing

end Complete

end Automaton

namespace Random

open DrawSource Builder

/-! ## All states with all letters -/

theorem situations_eq (states : List StateId) (symbols : List Symbol) :
    situations states symbols = (states ×ˢ symbols).map fun pair => ⟨pair.1, pair.2⟩ := by
  change _ = (states.flatMap fun state => symbols.map (Prod.mk state)).map _
  simp [situations, List.map_flatMap, Function.comp_def]

theorem mem_situations {states : List StateId} {symbols : List Symbol} {state : StateId}
    {symbol : Symbol} :
    ⟨state, symbol⟩ ∈ situations states symbols ↔ state ∈ states ∧ symbol ∈ symbols := by
  simp [situations]

theorem length_situations (states : List StateId) (symbols : List Symbol) :
    (situations states symbols).length = states.length * symbols.length := by
  rw [situations_eq, List.length_map, List.length_product]

theorem nodup_situations {states : List StateId} {symbols : List Symbol}
    (apart : states.Nodup) (distinct : symbols.Nodup) : (situations states symbols).Nodup := by
  rw [situations_eq]
  refine (apart.product distinct).map fun first second same => ?_
  exact Prod.ext (congrArg Situation.state same) (congrArg Situation.symbol same)

theorem nodup_letters {count : Nat} (few : count ≤ 26) : (Alphabet.letters count).Nodup := by
  have all : (Alphabet.letters 26).Nodup := by decide
  exact all.sublist ((List.range_sublist.mpr few).map Alphabet.letter)

theorem nodup_stateIds (size : Nat) : (stateIds size).Nodup :=
  List.nodup_range.map fun _ _ => StateId.numbered_injective

theorem numbered_mem_stateIds {number size : Nat} (small : number < size) :
    .numbered number ∈ stateIds size :=
  List.mem_map_of_mem (List.mem_range.mpr small)

section Parts

variable {ids : List StateId} {letters : List Symbol} {edges : List Edge}
  (everywhere : edges.map Edge.situation = situations ids letters)

include everywhere

/-- Edges that run through all states and letters come to no others. -/
theorem mem_of_everywhere {edge : Edge} (given : edge ∈ edges) :
    edge.source ∈ ids ∧ edge.symbol ∈ letters := by
  rw [← mem_situations, ← everywhere]
  exact List.mem_map_of_mem given

/-- Edges that run through all states and letters once make a complete automaton. -/
theorem complete_ofParts {accepting : List StateId} {initial : StateId} (apart : ids.Nodup)
    (distinct : letters.Nodup) (starts : initial ∈ ids) (back : ∀ edge ∈ edges, edge.target ∈ ids)
    (chosen : accepting.Sublist ids) (name : String) :
    (ofParts name ⟨letters⟩ ids edges accepting initial).Complete := by
  have stateIds : (ofParts name ⟨letters⟩ ids edges accepting initial).stateIds = ids :=
    map_id_ofId ids
  constructor
  · rwa [stateIds]
  · rwa [stateIds]
  · rwa [stateIds]
  · intro transition named
    obtain ⟨edge, given, source, symbol, target⟩ := exists_edge_of_mem_nameEdges named
    obtain ⟨known, spelled⟩ := mem_of_everywhere everywhere given
    rw [stateIds, source, symbol, target]
    exact ⟨known, spelled, back edge given⟩
  · intro state known symbol spelled
    rw [stateIds] at known
    have once := nodup_situations apart distinct
    have present : ⟨state, symbol⟩ ∈ situations ids letters := mem_situations.mpr ⟨known, spelled⟩
    rw [← everywhere, ← map_situation_nameEdges .standard] at once present
    obtain ⟨transition, named, serves⟩ := List.mem_map.mp present
    refine ⟨transition, ⟨named, serves⟩, ?_⟩
    rintro other ⟨also, alike⟩
    exact List.inj_on_of_nodup_map once also named (alike.trans serves.symm)
  · exact nodup_id_nameEdges ..

theorem length_nameEdges_of_everywhere (tokens : TokenSource) :
    (nameEdges tokens edges).length = letters.length * ids.length := by
  have lengths := congrArg List.length everywhere
  rw [← map_situation_nameEdges tokens, List.length_map, length_situations] at lengths
  rw [lengths, Nat.mul_comm]

end Parts

/-! ## What is drawn -/

variable {σ : Type} [DrawSource σ]

theorem map_situation_edges (size : Nat) (symbols : List Symbol) (states : List StateId)
    (source : σ) :
    (edges size symbols states source).1.map Edge.situation = situations states symbols := by
  rw [edges, ← List.map_uncurry_zip_eq_zipWith, List.map_map]
  exact List.map_fst_zip (Nat.le_of_eq (length_many ..).symm)

theorem target_mem_stateIds {size : Nat} (inhabited : 0 < size) {symbols : List Symbol}
    {states : List StateId} {source : σ} {edge : Edge}
    (drawn : edge ∈ (edges size symbols states source).1) : edge.target ∈ stateIds size := by
  rw [edges, ← List.map_uncurry_zip_eq_zipWith] at drawn
  obtain ⟨⟨situation, number⟩, paired, rfl⟩ := List.mem_map.mp drawn
  have small : ∀ target ∈ (many (below size) (situations states symbols).length source).1,
      target < size :=
    forall_mem_many (below_lt inhabited) _ source
  exact numbered_mem_stateIds (small number (List.of_mem_zip paired).2)

theorem acceptance_sublist (probability : Float) (states : List StateId) (source : σ) :
    (acceptance probability states source).1.Sublist states := by
  have all := (List.filter_sublist (p := fun pair : StateId × Float => pair.2 < probability)
    (l := states.zip (many unit states.length source).1)).map Prod.fst
  rwa [List.map_fst_zip (Nat.le_of_eq (length_many ..).symm)] at all

/-- The edges that are drawn once it is settled which states accept. -/
def drawnEdges (symbols size : Nat) (probability : Float) (source : σ) : List Edge × σ :=
  edges size (Alphabet.letters symbols) (stateIds size)
    (acceptance probability (stateIds size) source).2

theorem map_situation_drawnEdges (symbols size : Nat) (probability : Float) (source : σ) :
    (drawnEdges symbols size probability source).1.map Edge.situation =
      situations (stateIds size) (Alphabet.letters symbols) :=
  map_situation_edges ..

/-- All parts of a random automaton fit together, so nothing is added to them. -/
theorem automaton_eq_ofParts {symbols size : Nat} (few : symbols ≤ 26) (inhabited : 0 < size)
    (probability : Float) (source : σ) :
    Random.automaton symbols size probability source =
      .ok (ofParts ("random-" ++ toString symbols ++ "-" ++ toString size)
        ⟨Alphabet.letters symbols⟩ (stateIds size) (drawnEdges symbols size probability source).1
        (acceptance probability (stateIds size) source).1 (.numbered 0),
        (drawnEdges symbols size probability source).2) := by
  have everywhere := map_situation_drawnEdges symbols size probability source
  rw [Random.automaton, if_neg (Nat.ne_of_gt inhabited), Alphabet.ofSize, if_pos few]
  refine congrArg (fun built => Except.ok (built, (drawnEdges symbols size probability source).2))
    (assembled_eq_ofParts (numbered_mem_stateIds inhabited) ?_ ?_)
  · intro edge drawn
    exact ⟨(mem_of_everywhere everywhere drawn).1, target_mem_stateIds inhabited drawn⟩
  · intro id accepts
    exact (acceptance_sublist probability (stateIds size) source).subset accepts

/-- Whatever is drawn, an automaton with few enough symbols and at least one state comes of it. -/
theorem exists_automaton {symbols size : Nat} (few : symbols ≤ 26) (inhabited : 0 < size)
    (probability : Float) (source : σ) :
    ∃ automaton left, Random.automaton symbols size probability source = .ok (automaton, left) ∧
      automaton.Complete ∧
      automaton.states = ((List.range size).map fun number =>
        ⟨⟨"q" ++ toString number⟩, "q" ++ toString number, ⟨0, 0⟩⟩) ∧
      automaton.initial = ⟨"q0"⟩ ∧
      automaton.alphabet =
        ⟨(List.range symbols).map fun number => Char.ofNat ('a'.toNat + number)⟩ ∧
      automaton.transitions.length = symbols * size := by
  have everywhere := map_situation_drawnEdges symbols size probability source
  have states : (stateIds size).map State.ofId = (List.range size).map fun number =>
      ⟨⟨"q" ++ toString number⟩, "q" ++ toString number, ⟨0, 0⟩⟩ := List.map_map
  refine ⟨_, _, automaton_eq_ofParts few inhabited probability source, ?_, states, rfl, rfl, ?_⟩
  · apply complete_ofParts everywhere (nodup_stateIds size) (nodup_letters few)
    · exact numbered_mem_stateIds inhabited
    · exact fun edge drawn => target_mem_stateIds inhabited drawn
    · exact acceptance_sublist probability (stateIds size) source
  · refine (length_nameEdges_of_everywhere everywhere .standard).trans ?_
    rw [Alphabet.letters, stateIds, List.length_map, List.length_map, List.length_range,
      List.length_range]

theorem symbol_mem {symbols : List Symbol} (some : symbols ≠ []) (source : σ) :
    (symbol symbols source).1 ∈ symbols := by
  have within := below_lt (List.length_pos_of_ne_nil some) source
  rw [symbol]
  simp only [List.getD_eq_getElem?_getD, List.getElem?_eq_getElem within, Option.getD_some]
  exact List.getElem_mem within

/-- Any range that is not upside down gives a word. -/
theorem exists_word {alphabet : Alphabet} {low high : Nat} (ordered : low ≤ high) (source : σ) :
    ∃ word left, Random.word alphabet low high source = .ok (word, left) ∧
      alphabet.Spells word ∧
      (alphabet.symbols ≠ [] → low ≤ word.length ∧ word.length ≤ high) := by
  rw [Random.word]
  by_cases empty : alphabet.isEmpty = true
  · rw [if_pos empty]
    refine ⟨[], source, rfl, fun symbol member => ?_, fun some => ?_⟩
    · cases member
    · exact absurd (List.isEmpty_iff.mp empty) some
  · rw [if_neg empty, if_neg (Nat.not_lt.mpr ordered)]
    have some : alphabet.symbols ≠ [] := mt List.isEmpty_iff.mpr empty
    refine ⟨_, _, rfl, forall_mem_many (symbol_mem some) _ _, fun _ => ?_⟩
    rw [length_many]
    exact ⟨le_between .., between_le ordered _⟩

theorem word_of_empty (low high : Nat) (source : σ) :
    Random.word ⟨[]⟩ low high source = .ok ([], source) := rfl

end Random

/-- With at most 26 symbols and at least one state, any source of draws and any probability give an
automaton with the states `q0`, `q1`, …, in which each state has exactly one transition on each of
the first letters, and which starts in `q0`. Its transitions have different names, and its accepting
states are some of its states in the same order, each one once. Validation finds no error in it and
warns of nothing but a lack of letters; each word over its letters is read to its end and accepted
or rejected. A random word over an alphabet is such a word, as long as its range says if there are
any letters at all, and empty otherwise. -/
theorem random_automata_complete {σ : Type} [DrawSource σ] :
    (∀ (symbols size : Nat) (probability : Float) (source : σ), symbols ≤ 26 → 0 < size →
      ∃ automaton left,
        Random.automaton symbols size probability source = .ok (automaton, left) ∧
        automaton.states = ((List.range size).map fun number =>
          ⟨⟨"q" ++ toString number⟩, "q" ++ toString number, ⟨0, 0⟩⟩) ∧
        automaton.initial = ⟨"q0"⟩ ∧
        automaton.alphabet =
          ⟨(List.range symbols).map fun number => Char.ofNat ('a'.toNat + number)⟩ ∧
        automaton.transitions.length = symbols * size ∧
        (∀ state ∈ automaton.stateIds, ∀ symbol ∈ automaton.alphabet.symbols,
          ∃! transition, transition ∈ automaton.transitions ∧
            transition.situation = ⟨state, symbol⟩) ∧
        (automaton.transitions.map Transition.id).Nodup ∧
        automaton.accepting.Sublist automaton.stateIds ∧ automaton.accepting.Nodup ∧
        automaton.validate.value = ⟨[], if symbols = 0 then [.emptyAlphabet] else []⟩ ∧
        ∀ word, automaton.alphabet.Spells word →
          ((automaton.judge word).value.outcome = .accepted ∨
            ∃ state, (automaton.judge word).value.outcome = .rejected state) ∧
          (automaton.judge word).value.remaining = [] ∧
          (automaton.judge word).value.path.length = word.length + 1) ∧
    (∀ (alphabet : Alphabet) (low high : Nat) (source : σ), low ≤ high →
      ∃ word left, Random.word alphabet low high source = .ok (word, left) ∧
        alphabet.Spells word ∧
        (alphabet.symbols ≠ [] → low ≤ word.length ∧ word.length ≤ high)) ∧
    ∀ (low high : Nat) (source : σ), Random.word ⟨[]⟩ low high source = .ok ([], source) := by
  refine ⟨fun symbols size probability source few inhabited => ?_,
    fun _ _ _ source ordered => Random.exists_word ordered source, Random.word_of_empty⟩
  obtain ⟨automaton, left, does, complete, states, initial, alphabet, count⟩ :=
    Random.exists_automaton few inhabited probability source
  refine ⟨automaton, left, does, states, initial, alphabet, count, complete.served,
    complete.distinct, complete.accepting, complete.unique.sublist complete.accepting, ?_,
    fun word spelled => complete.completes spelled⟩
  rw [complete.value_validate, alphabet]
  simp

theorem random_automata_complete_seeded :
    (2 ≤ 26 ∧ 0 < 3 ∧ ∃ automaton left,
      Random.automaton 2 3 0.5 (⟨7⟩ : Generator) = .ok (automaton, left) ∧
      automaton.states = [⟨⟨"q0"⟩, "q0", ⟨0, 0⟩⟩, ⟨⟨"q1"⟩, "q1", ⟨0, 0⟩⟩, ⟨⟨"q2"⟩, "q2", ⟨0, 0⟩⟩] ∧
      automaton.initial = ⟨"q0"⟩ ∧ automaton.alphabet = ⟨['a', 'b']⟩ ∧
      automaton.transitions.length = 6 ∧ automaton.validate.value = ⟨[], []⟩ ∧
      automaton.alphabet.Spells ['a', 'b', 'a'] ∧
      (automaton.judge ['a', 'b', 'a']).value.path.length = 4) ∧
    (2 ≤ 5 ∧ [' ', 'x'] ≠ [] ∧ ∃ word left,
      Random.word ⟨[' ', 'x']⟩ 2 5 (⟨7⟩ : Generator) = .ok (word, left) ∧
      2 ≤ word.length ∧ word.length ≤ 5) := by
  obtain ⟨automata, words, -⟩ := random_automata_complete (σ := Generator)
  constructor
  · obtain ⟨automaton, left, does, states, initial, alphabet, count, -, -, -, -, valid, runs⟩ :=
      automata 2 3 0.5 ⟨7⟩ (by decide) (by decide)
    have spelled : automaton.alphabet.Spells ['a', 'b', 'a'] := by
      rw [alphabet]
      decide
    exact ⟨by decide, by decide, automaton, left, does, states, initial, alphabet, count, valid,
      spelled, (runs _ spelled).2.2⟩
  · obtain ⟨word, left, does, -, within⟩ := words ⟨[' ', 'x']⟩ 2 5 ⟨7⟩ (by decide)
    exact ⟨by decide, by decide, word, left, does, within (by decide)⟩

end Acceptor
