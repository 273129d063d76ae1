import Acceptor.Proofs.Run.Judgement
import Mathlib.Logic.Relation

/-! # What runs depend on

A walk looks at the transitions that it meets and at no others (`AgreeAlong`). What a verdict and a
trace depend on besides are the initial state, which symbols are in the alphabet, and whether the
state where the walk stops accepts (`Automaton.AgreeOn`). Hence two automata that start alike, know
the same symbols, accept in the same states and lead on alike judge every word alike, however they
are written down (`runs_depend_on_first_targets`).
-/

namespace Acceptor

namespace Walk

variable {next? other? : StateId → Symbol → Option StateId} {source : StateId} {word : Word}

/-- In every state that the first one comes to with the word, the second one leads on alike. -/
def AgreeAlong (next? other? : StateId → Symbol → Option StateId) : StateId → Word → Prop
  | _, [] => True
  | source, symbol :: rest =>
    other? source symbol = next? source symbol ∧
      ∀ target, next? source symbol = some target → AgreeAlong next? other? target rest

theorem agreeAlong_of_forall
    (alike : ∀ state, ∀ symbol ∈ word, other? state symbol = next? state symbol) :
    AgreeAlong next? other? source word := by
  induction word generalizing source with
  | nil => trivial
  | cons symbol rest ih =>
    refine ⟨alike source symbol List.mem_cons_self, fun target _ => ?_⟩
    apply ih
    intro state later member
    exact alike state later (List.mem_cons_of_mem symbol member)

theorem AgreeAlong.stop_eq (agree : AgreeAlong next? other? source word) :
    stop other? source word = stop next? source word := by
  induction word generalizing source with
  | nil => rfl
  | cons symbol rest ih =>
    obtain ⟨here, later⟩ := agree
    cases found : next? source symbol with
    | none => simp [stop, here, found]
    | some target => simpa [stop, here, found] using ih (later target found)

theorem AgreeAlong.onward_eq (agree : AgreeAlong next? other? source word) (index : Nat) :
    onward other? source index word = onward next? source index word := by
  induction word generalizing source index with
  | nil => rfl
  | cons symbol rest ih =>
    obtain ⟨here, later⟩ := agree
    cases found : next? source symbol with
    | none => simp [onward, here, found]
    | some target => simpa [onward, here, found] using ih (later target found) (index + 1)

theorem AgreeAlong.trail_eq (agree : AgreeAlong next? other? source word) :
    trail other? source word = trail next? source word := by
  rw [trail, trail, agree.onward_eq]

end Walk

open Walk

/-- Which transition comes first may be asked without their names. -/
theorem firstTarget?_eq_find?_map (transitions : List Transition) (state : StateId)
    (symbol : Symbol) :
    firstTarget? transitions state symbol =
      ((transitions.map fun transition => (transition.situation, transition.target)).find?
        fun entry => entry.1 == ⟨state, symbol⟩).map Prod.snd := by
  rw [List.find?_map, Option.map_map, firstTarget?]
  rfl

/-- The first of the transitions that serve a state and symbol decides. -/
theorem firstTarget?_eq_head?_filter (transitions : List Transition) (state : StateId)
    (symbol : Symbol) :
    firstTarget? transitions state symbol =
      (transitions.filter fun transition => transition.serves state symbol).head?.map
        Transition.target := by
  rw [firstTarget?, List.head?_filter]

/-- Transitions on other symbols do not come in between. -/
theorem firstTarget?_filter_symbol (transitions : List Transition) (known : Symbol → Bool)
    (state : StateId) {symbol : Symbol} (listed : known symbol = true) :
    firstTarget? (transitions.filter fun transition => known transition.symbol) state symbol =
      firstTarget? transitions state symbol := by
  rw [firstTarget?, List.find?_filter, firstTarget?]
  congr 2
  funext transition
  rw [Bool.eq_iff_iff, decide_eq_true_iff, Transition.serves_eq_true_iff]
  constructor
  · exact And.right
  · rintro ⟨source, rfl⟩
    exact ⟨listed, source, rfl⟩

namespace Automaton

/-- No run of the word tells the two apart. Only a word over the alphabet is run, so only then
transitions and acceptance come in. -/
structure AgreeOn (automaton other : Automaton) (word : Word) : Prop where
  initial : other.initial = automaton.initial
  alphabet : ∀ symbol, symbol ∈ other.alphabet.symbols ↔ symbol ∈ automaton.alphabet.symbols
  transitions : automaton.alphabet.Spells word →
    AgreeAlong (firstTarget? automaton.transitions) (firstTarget? other.transitions)
      automaton.initial word
  accepting : automaton.alphabet.Spells word →
    ((automaton.stop word).1 ∈ other.accepting ↔ (automaton.stop word).1 ∈ automaton.accepting)

/-- Two automata that start alike, know the same symbols and accept in the same states. -/
structure SameFrame (automaton other : Automaton) : Prop where
  initial : other.initial = automaton.initial
  alphabet : ∀ symbol, symbol ∈ other.alphabet.symbols ↔ symbol ∈ automaton.alphabet.symbols
  accepting : ∀ state, state ∈ other.accepting ↔ state ∈ automaton.accepting

/-- The same transitions in another order at most, in which those that leave the same state on the
same symbol follow each other as before. -/
def Reordered (before after : List Transition) : Prop :=
  ∀ state symbol, (after.filter fun transition => transition.serves state symbol) =
    before.filter fun transition => transition.serves state symbol

/-- One change to an automaton that concerns only how it is written down. -/
inductive Restyled (before : Automaton) : Automaton → Prop
  | heading (id name : String) (description : Option String) :
    Restyled before { before with id, name, description }
  /-- The states may be other ones altogether, with their labels and positions. -/
  | states (states : List State) : Restyled before { before with states }
  | alphabet (alphabet : Alphabet)
      (same : ∀ symbol, symbol ∈ alphabet.symbols ↔ symbol ∈ before.alphabet.symbols) :
    Restyled before { before with alphabet }
  | accepting (accepting : List StateId)
      (same : ∀ state, state ∈ accepting ↔ state ∈ before.accepting) :
    Restyled before { before with accepting }
  /-- The transitions go by other names. -/
  | transitionIds (transitions : List Transition)
      (same : (transitions.map fun transition => (transition.situation, transition.target)) =
        before.transitions.map fun transition => (transition.situation, transition.target)) :
    Restyled before { before with transitions }
  | order (transitions : List Transition)
      (reordered : Reordered before.transitions transitions) :
    Restyled before { before with transitions }

variable {automaton other : Automaton} {word : Word}

namespace AgreeOn

theorem spells_iff (agree : automaton.AgreeOn other word) :
    other.alphabet.Spells word ↔ automaton.alphabet.Spells word := by
  simp only [Alphabet.Spells, agree.alphabet]

theorem invalidSymbols_eq (agree : automaton.AgreeOn other word) :
    other.invalidSymbols word = automaton.invalidSymbols word := by
  have known (symbol : Symbol) :
      other.alphabet.contains symbol = automaton.alphabet.contains symbol := by
    rw [Bool.eq_iff_iff, Alphabet.contains_eq_true_iff, Alphabet.contains_eq_true_iff]
    exact agree.alphabet symbol
  simp only [invalidSymbols, known]

theorem stop_eq (agree : automaton.AgreeOn other word)
    (spelled : automaton.alphabet.Spells word) : other.stop word = automaton.stop word := by
  rw [stop, stop, agree.initial]
  exact (agree.transitions spelled).stop_eq

theorem outcomeAt_eq (agree : automaton.AgreeOn other word)
    (spelled : automaton.alphabet.Spells word) :
    other.outcomeAt (automaton.stop word) = automaton.outcomeAt (automaton.stop word) := by
  have accepting := agree.accepting spelled
  cases stopped : automaton.stop word with
  | mk state left =>
    rw [stopped] at accepting
    cases left with
    | nil => exact if_congr accepting rfl rfl
    | cons symbol rest => rfl

theorem value_judge_eq (agree : automaton.AgreeOn other word) :
    (other.judge word).value = (automaton.judge word).value := by
  by_cases spelled : automaton.alphabet.Spells word
  · rw [value_judge_of_spells spelled, value_judge_of_spells (agree.spells_iff.mpr spelled),
      agree.stop_eq spelled, agree.outcomeAt_eq spelled, agree.initial,
      (agree.transitions spelled).trail_eq]
  · rw [value_judge_of_not_spells spelled,
      value_judge_of_not_spells (mt agree.spells_iff.mp spelled), agree.initial,
      agree.invalidSymbols_eq]

theorem value_trace_eq (agree : automaton.AgreeOn other word) :
    (other.trace word).value = (automaton.trace word).value := by
  by_cases spelled : automaton.alphabet.Spells word
  · rw [value_trace_of_spells spelled, value_trace_of_spells (agree.spells_iff.mpr spelled),
      agree.stop_eq spelled, agree.outcomeAt_eq spelled, agree.initial,
      (agree.transitions spelled).trail_eq]
  · rw [value_trace_of_not_spells spelled,
      value_trace_of_not_spells (mt agree.spells_iff.mp spelled), agree.initial,
      agree.invalidSymbols_eq]

end AgreeOn

/-- Steps are taken without a look at the alphabet and at acceptance. -/
theorem value_steps_eq (initial : other.initial = automaton.initial)
    (agree : AgreeAlong (firstTarget? automaton.transitions) (firstTarget? other.transitions)
      automaton.initial word) :
    (other.steps word).value = (automaton.steps word).value := by
  rw [value_steps, value_steps, initial, agree.trail_eq]

/-- Transitions on symbols of the alphabet are all that a word over the alphabet can meet. -/
theorem SameFrame.agreeOn (same : automaton.SameFrame other)
    (targets : ∀ state, ∀ symbol ∈ automaton.alphabet.symbols,
      firstTarget? other.transitions state symbol =
        firstTarget? automaton.transitions state symbol)
    (word : Word) : automaton.AgreeOn other word where
  initial := same.initial
  alphabet := same.alphabet
  transitions := by
    intro spelled
    apply agreeAlong_of_forall
    intro state symbol member
    exact targets state symbol (spelled symbol member)
  accepting := fun _ => same.accepting _

namespace SameFrame

theorem of_eq (initial : other.initial = automaton.initial)
    (alphabet : other.alphabet = automaton.alphabet)
    (accepting : other.accepting = automaton.accepting) : automaton.SameFrame other where
  initial := initial
  alphabet symbol := by rw [alphabet]
  accepting state := by rw [accepting]

theorem trans {last : Automaton} (same : automaton.SameFrame other)
    (later : other.SameFrame last) : automaton.SameFrame last where
  initial := later.initial.trans same.initial
  alphabet symbol := (later.alphabet symbol).trans (same.alphabet symbol)
  accepting state := (later.accepting state).trans (same.accepting state)

theorem value_runs_eq (same : automaton.SameFrame other)
    (targets : firstTarget? other.transitions = firstTarget? automaton.transitions)
    (word : Word) :
    (other.judge word).value = (automaton.judge word).value ∧
    (other.trace word).value = (automaton.trace word).value ∧
    (other.steps word).value = (automaton.steps word).value := by
  have agree := same.agreeOn (fun state symbol _ => by rw [targets]) word
  refine ⟨agree.value_judge_eq, agree.value_trace_eq, value_steps_eq same.initial ?_⟩
  exact agreeAlong_of_forall fun state symbol _ => by rw [targets]

end SameFrame

/-- However an automaton is written down, it keeps its frame and leads on as before. -/
theorem Restyled.alike (restyled : automaton.Restyled other) :
    automaton.SameFrame other ∧
      firstTarget? other.transitions = firstTarget? automaton.transitions := by
  cases restyled with
  | heading id name description => exact ⟨.of_eq rfl rfl rfl, rfl⟩
  | states states => exact ⟨.of_eq rfl rfl rfl, rfl⟩
  | alphabet alphabet same => exact ⟨⟨rfl, same, fun _ => Iff.rfl⟩, rfl⟩
  | accepting accepting same => exact ⟨⟨rfl, fun _ => Iff.rfl, same⟩, rfl⟩
  | transitionIds transitions same =>
    refine ⟨.of_eq rfl rfl rfl, ?_⟩
    funext state symbol
    rw [firstTarget?_eq_find?_map, same, ← firstTarget?_eq_find?_map]
  | order transitions reordered =>
    refine ⟨.of_eq rfl rfl rfl, ?_⟩
    funext state symbol
    rw [firstTarget?_eq_head?_filter, reordered state symbol, ← firstTarget?_eq_head?_filter]

/-- Any number of such changes does no more than one. -/
theorem alike_of_restyled (restyled : Relation.ReflTransGen Restyled automaton other) :
    automaton.SameFrame other ∧
      firstTarget? other.transitions = firstTarget? automaton.transitions := by
  induction restyled with
  | refl => exact ⟨.of_eq rfl rfl rfl, rfl⟩
  | tail _ last ih =>
    obtain ⟨same, targets⟩ := ih
    obtain ⟨sameLast, targetsLast⟩ := last.alike
    exact ⟨same.trans sameLast, targetsLast.trans targets⟩

end Automaton

/-- What runs depend on. Two automata that start alike, know the same symbols and accept in the same
states judge and trace every word alike if first transitions on these symbols lead to the same
states; that all first transitions do so makes the steps alike. So nothing changes for runs if an
automaton is given another heading or other states, if symbols or accepting states are listed in
another order or repeatedly, or if transitions are renamed or reordered and those of one state and
symbol keep their order; and transitions on foreign symbols play no part in verdict and trace. -/
theorem runs_depend_on_first_targets (automaton : Automaton) :
    (∀ other, automaton.SameFrame other →
      (∀ state, ∀ symbol ∈ automaton.alphabet.symbols,
        firstTarget? other.transitions state symbol =
          firstTarget? automaton.transitions state symbol) →
      ∀ word, (other.judge word).value = (automaton.judge word).value ∧
        (other.trace word).value = (automaton.trace word).value) ∧
    (∀ other : Automaton, other.initial = automaton.initial →
      (∀ state symbol, firstTarget? other.transitions state symbol =
        firstTarget? automaton.transitions state symbol) →
      ∀ word, (other.steps word).value = (automaton.steps word).value) ∧
    (∀ other, Relation.ReflTransGen Automaton.Restyled automaton other →
      ∀ word, (other.judge word).value = (automaton.judge word).value ∧
        (other.trace word).value = (automaton.trace word).value ∧
        (other.steps word).value = (automaton.steps word).value) ∧
    ∀ transitions,
      (transitions.filter fun transition => automaton.alphabet.contains transition.symbol) =
        (automaton.transitions.filter fun transition =>
          automaton.alphabet.contains transition.symbol) →
      ∀ word,
        (Automaton.judge { automaton with transitions } word).value =
          (automaton.judge word).value ∧
        (Automaton.trace { automaton with transitions } word).value =
          (automaton.trace word).value := by
  refine ⟨?_, ?_, ?_, ?_⟩
  · intro other same targets word
    have agree := same.agreeOn targets word
    exact ⟨agree.value_judge_eq, agree.value_trace_eq⟩
  · intro other initial targets word
    apply Automaton.value_steps_eq initial
    exact agreeAlong_of_forall fun state symbol _ => targets state symbol
  · intro other restyled word
    obtain ⟨same, targets⟩ := Automaton.alike_of_restyled restyled
    exact same.value_runs_eq targets word
  · intro transitions sameKnown word
    have targets (state : StateId) (symbol : Symbol)
        (listed : symbol ∈ automaton.alphabet.symbols) :
        firstTarget? transitions state symbol =
          firstTarget? automaton.transitions state symbol := by
      have known := Alphabet.contains_eq_true_iff.mpr listed
      rw [← firstTarget?_filter_symbol transitions _ state known, sameKnown,
        firstTarget?_filter_symbol automaton.transitions _ state known]
    have same : automaton.SameFrame { automaton with transitions } := .of_eq rfl rfl rfl
    have agree := same.agreeOn targets word
    exact ⟨agree.value_judge_eq, agree.value_trace_eq⟩

/-- Two states with a transition there and back, one that never decides and one on a symbol that the
alphabet does not have. -/
def sketched : Automaton where
  id := "sketched"
  name := "sketched"
  description := none
  alphabet := ⟨['a', 'b']⟩
  states := [.ofId ⟨"p"⟩, .ofId ⟨"q"⟩]
  transitions := [⟨⟨"t0"⟩, ⟨"p"⟩, 'a', ⟨"q"⟩⟩, ⟨⟨"t1"⟩, ⟨"q"⟩, 'b', ⟨"p"⟩⟩,
    ⟨⟨"t2"⟩, ⟨"p"⟩, 'a', ⟨"p"⟩⟩, ⟨⟨"t3"⟩, ⟨"q"⟩, 'c', ⟨"q"⟩⟩]
  initial := ⟨"p"⟩
  accepting := [⟨"q"⟩]

/-- Transitions that decide, under other names and the other way round, and no states at all. -/
def redrawn : Automaton where
  id := "redrawn"
  name := "redrawn"
  description := some "without what nobody sees"
  alphabet := ⟨['b', 'a', 'b']⟩
  states := []
  transitions := [⟨⟨"back"⟩, ⟨"q"⟩, 'b', ⟨"p"⟩⟩, ⟨⟨"there"⟩, ⟨"p"⟩, 'a', ⟨"q"⟩⟩]
  initial := ⟨"p"⟩
  accepting := [⟨"q"⟩, ⟨"q"⟩]

theorem firstTarget?_redrawn (state : StateId) :
    ∀ symbol ∈ sketched.alphabet.symbols,
      firstTarget? redrawn.transitions state symbol =
        firstTarget? sketched.transitions state symbol := by
  intro symbol listed
  have letter : symbol = 'a' ∨ symbol = 'b' := List.mem_pair.mp listed
  by_cases atP : state = ⟨"p"⟩
  · subst atP
    rcases letter with rfl | rfl <;> decide
  by_cases atQ : state = ⟨"q"⟩
  · subst atQ
    rcases letter with rfl | rfl <;> decide
  have idle (transitions : List Transition) (symbol : Symbol)
      (leaves : ∀ transition ∈ transitions,
        transition.source = ⟨"p"⟩ ∨ transition.source = ⟨"q"⟩) :
      firstTarget? transitions state symbol = none := by
    rw [firstTarget?_eq_none_iff]
    rintro transition listed ⟨rfl, -⟩
    exact (leaves transition listed).elim atP atQ
  rw [idle redrawn.transitions symbol (by decide), idle sketched.transitions symbol (by decide)]

theorem runs_depend_on_first_targets_redrawn :
    (sketched.SameFrame redrawn ∧
      (redrawn.judge ['a', 'b', 'a']).value = (sketched.judge ['a', 'b', 'a']).value ∧
      (redrawn.judge ['a', 'c']).value = (sketched.judge ['a', 'c']).value) ∧
    (Automaton.steps { sketched with alphabet := ⟨[]⟩ } ['a', 'c']).value =
      (sketched.steps ['a', 'c']).value ∧
    (Automaton.judge { sketched with states := [], accepting := redrawn.accepting } ['a']).value =
      (sketched.judge ['a']).value ∧
    (Automaton.judge { sketched with transitions := sketched.transitions.dropLast } ['a']).value =
      (sketched.judge ['a']).value := by
  have same : sketched.SameFrame redrawn := by
    refine ⟨rfl, ?_, ?_⟩
    · intro symbol
      grind [sketched, redrawn]
    · intro state
      grind [sketched, redrawn]
  have restyled : Relation.ReflTransGen Automaton.Restyled sketched
      { sketched with states := [], accepting := redrawn.accepting } :=
    .tail (.single (.states [])) (.accepting redrawn.accepting same.accepting)
  have judged := (runs_depend_on_first_targets sketched).1 redrawn same firstTarget?_redrawn
  refine ⟨⟨same, (judged _).1, (judged _).1⟩, ?_, ?_, ?_⟩
  · exact (runs_depend_on_first_targets sketched).2.1 _ rfl (fun _ _ => rfl) _
  · exact ((runs_depend_on_first_targets sketched).2.2.1 _ restyled _).1
  · exact ((runs_depend_on_first_targets sketched).2.2.2 _ (by decide) _).1

end Acceptor
