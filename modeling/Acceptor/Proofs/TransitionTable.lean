import Acceptor.Proofs.Run.Judgement
import Acceptor.Proofs.Validation.Report
import Acceptor.TransitionTable

/-! # What the table shows

The table of an automaton of any kind, read off its lists. It has a row for each declared state and
a column for each symbol, in the order of their first places, and where they meet it shows where the
first transition leads (`entry?_transitionTable`), so it shows what runs do. The cells without a
target are what validation warns of, in the same order (`table_shows_targets_and_gaps`).

A dash stands for a missing target, but a state may be called so too. What is said of dashes is
therefore said of targets first, and of what can be read second.
-/

namespace List

/-- In a list of keys with their values a key is found exactly if it is there. -/
theorem lookup_map_eq_some_iff {α β : Type} [BEq α] [LawfulBEq α] {value : α → β} {keys : List α}
    {key : α} {found : β} :
    (keys.map fun key => (key, value key)).lookup key = some found ↔
      key ∈ keys ∧ value key = found := by
  by_cases listed : key ∈ keys
  · rw [lookup_graph value listed, Option.some_inj, and_iff_right listed]
  · have missing : (keys.map fun key => (key, value key)).lookup key = none := by
      refine lookup_eq_none_iff.mpr fun entry member => ?_
      obtain ⟨other, among, rfl⟩ := mem_map.mp member
      exact bne_iff_ne.mpr fun same => listed (same ▸ among)
    simp only [missing, listed, reduceCtorEq, false_and]

end List

namespace Acceptor

/-- The state and symbol of which a warning says that nothing serves them. -/
def ValidationWarning.gap? : ValidationWarning → Option Situation
  | .emptyAlphabet => none
  | .missingTransition state symbol => some ⟨state, symbol⟩

namespace TransitionTable

/-- What stands in the row of a state and the column of a symbol, if the table has them. -/
def entry? (table : TransitionTable) (state : StateId) (symbol : Symbol) :
    Option (Option StateId) := do
  let row ← (table.rows.map fun row => (row.state, row)).lookup state
  (table.symbols.zip row.targets).lookup symbol

/-- The cells that show something of a kind, row by row and from left to right. -/
def cellsWhere (shows : Option StateId → Bool) (table : TransitionTable) : List Situation :=
  table.rows.flatMap fun row =>
    ((table.symbols.zip row.targets).filter fun column => shows column.2).map fun column =>
      ⟨row.state, column.1⟩

/-- The cells that have no target. -/
def gaps (table : TransitionTable) : List Situation := table.cellsWhere Option.isNone

/-- The cells that read as a dash. -/
def dashes (table : TransitionTable) : List Situation :=
  table.cellsWhere fun target => TransitionRow.cell target == "-"

end TransitionTable

namespace Automaton

variable (automaton : Automaton)

theorem symbols_transitionTable :
    automaton.transitionTable.symbols = automaton.alphabet.symbols.firstOccurrences :=
  (List.firstOccurrences_eq_eraseDups _).symm

theorem rows_transitionTable :
    automaton.transitionTable.rows = automaton.stateIds.firstOccurrences.map fun state =>
      ⟨state, automaton.isInitial state, automaton.isAccepting state,
        automaton.alphabet.symbols.firstOccurrences.map (automaton.next? state)⟩ := by
  rw [List.firstOccurrences_eq_eraseDups, List.firstOccurrences_eq_eraseDups]
  rfl

/-- The table as it is written down. -/
theorem records_transitionTable :
    automaton.transitionTable.records =
      ("State" :: automaton.alphabet.symbols.firstOccurrences.map Text.Quoted.char) ::
        automaton.stateIds.firstOccurrences.map fun state =>
          ((if automaton.isInitial state then "→" else "") ++
              (if automaton.isAccepting state then "*" else "") ++ state.text) ::
            automaton.alphabet.symbols.firstOccurrences.map fun symbol =>
              (automaton.next? state symbol).elim "-" StateId.text := by
  have cell : TransitionRow.cell = fun target => target.elim "-" StateId.text := by
    funext target
    cases target <;> rfl
  rw [TransitionTable.records, symbols_transitionTable, rows_transitionTable, List.map_map]
  congr 2
  funext state
  simp only [Function.comp_apply, TransitionRow.record, TransitionRow.heading, cell, List.map_map]
  rfl

/-- Where a row and a column meet, the table shows where a run goes on. -/
theorem entry?_transitionTable {state : StateId} {symbol : Symbol} {target : Option StateId} :
    automaton.transitionTable.entry? state symbol = some target ↔
      state ∈ automaton.stateIds ∧ symbol ∈ automaton.alphabet.symbols ∧
        automaton.next? state symbol = target := by
  rw [TransitionTable.entry?, rows_transitionTable, List.map_map]
  simp only [Function.comp_def, Option.bind_eq_bind, Option.bind_eq_some_iff,
    List.lookup_map_eq_some_iff, List.mem_firstOccurrences]
  constructor
  · rintro ⟨row, ⟨declared, rfl⟩, found⟩
    rw [symbols_transitionTable, ← List.map_prod_left_eq_zip, List.lookup_map_eq_some_iff,
      List.mem_firstOccurrences] at found
    exact ⟨declared, found⟩
  · rintro ⟨declared, found⟩
    refine ⟨_, ⟨declared, rfl⟩, ?_⟩
    rwa [symbols_transitionTable, ← List.map_prod_left_eq_zip, List.lookup_map_eq_some_iff,
      List.mem_firstOccurrences]

/-- The cells of a kind, each with its first place among states and among symbols. -/
theorem cellsWhere_transitionTable (shows : Option StateId → Bool) :
    automaton.transitionTable.cellsWhere shows =
      automaton.stateIds.firstOccurrences.flatMap fun state =>
        (automaton.alphabet.symbols.firstOccurrences.filter fun symbol =>
          shows (automaton.next? state symbol)).map (.mk state) := by
  rw [TransitionTable.cellsWhere, rows_transitionTable, symbols_transitionTable, List.flatMap_map]
  congr 1
  funext state
  rw [← List.map_prod_left_eq_zip, List.filter_map, List.map_map]
  rfl

theorem gaps_transitionTable : automaton.transitionTable.gaps = automaton.unserved := by
  rw [TransitionTable.gaps, cellsWhere_transitionTable, unserved]
  congr 1
  funext state
  congr 2
  funext symbol
  rw [Bool.eq_iff_iff, decide_eq_true_iff, Option.isNone_iff_eq_none, next?_eq,
    firstTarget?_eq_none_iff]

/-- A dash can be read as a state only where a transition leads to one that is called so. -/
theorem dashes_transitionTable
    (unlike : ∀ transition ∈ automaton.transitions, transition.target ≠ ⟨"-"⟩) :
    automaton.transitionTable.dashes = automaton.unserved := by
  rw [← gaps_transitionTable, TransitionTable.dashes, TransitionTable.gaps,
    cellsWhere_transitionTable, cellsWhere_transitionTable]
  congr 1
  funext state
  congr 2
  funext symbol
  cases leads : automaton.next? state symbol with
  | none => rfl
  | some target =>
    rw [next?_eq] at leads
    obtain ⟨transition, listed, -, -, rfl⟩ := exists_of_firstTarget?_eq_some leads
    refine beq_eq_false_iff_ne.mpr fun same => unlike transition listed ?_
    exact congrArg StateId.mk same

theorem filterMap_gap?_warnings :
    automaton.validate.value.warnings.filterMap ValidationWarning.gap? = automaton.unserved := by
  have noSymbols : (if automaton.alphabet.symbols = [] then [ValidationWarning.emptyAlphabet]
      else []).filterMap ValidationWarning.gap? = [] := by
    split <;> rfl
  rw [warnings_validate, omissions, List.filterMap_append, noSymbols, List.filterMap_map]
  exact List.filterMap_some

/-- No state and symbol are missing twice. -/
theorem nodup_unserved : automaton.unserved.Nodup := by
  refine List.nodup_flatMap.mpr ⟨fun state _ => ?_, ?_⟩
  · refine ((List.nodup_firstOccurrences _).filter _).map fun first second same => ?_
    exact (Situation.mk.inj same).2
  · refine (List.nodup_firstOccurrences automaton.stateIds).imp fun apart => ?_
    rintro situation here there
    obtain ⟨symbol, -, rfl⟩ := List.mem_map.mp here
    obtain ⟨other, -, same⟩ := List.mem_map.mp there
    exact apart (Situation.mk.inj same).1.symm

end Automaton

/-- The table of any automaton. Its head names each symbol of the alphabet once and its rows each
declared state once, in the order of their first places. A row is marked by whether its state is the
initial one and whether it accepts; its cells show where runs go on from the state, which is where
the first transition leads, or a dash. Read row by row, the cells without a target are the states
and symbols that validation warns of, in the same order and each one once. They are the ones that
read as a dash, too, unless a transition leads to a state of that name. -/
theorem table_shows_targets_and_gaps (automaton : Automaton) :
    automaton.transitionTable.records =
      ("State" :: automaton.alphabet.symbols.firstOccurrences.map Text.Quoted.char) ::
        (automaton.stateIds.firstOccurrences.map fun state =>
          ((if automaton.isInitial state then "→" else "") ++
              (if automaton.isAccepting state then "*" else "") ++ state.text) ::
            automaton.alphabet.symbols.firstOccurrences.map fun symbol =>
              (automaton.next? state symbol).elim "-" StateId.text) ∧
    (∀ state symbol target,
      automaton.transitionTable.entry? state symbol = some target ↔
        state ∈ automaton.stateIds ∧ symbol ∈ automaton.alphabet.symbols ∧
          automaton.next? state symbol = target) ∧
    (∀ state symbol,
      automaton.next? state symbol = firstTarget? automaton.transitions state symbol) ∧
    automaton.transitionTable.gaps =
      automaton.validate.value.warnings.filterMap ValidationWarning.gap? ∧
    automaton.transitionTable.gaps.Nodup ∧
    ((∀ transition ∈ automaton.transitions, transition.target ≠ ⟨"-"⟩) →
      automaton.transitionTable.dashes =
        automaton.validate.value.warnings.filterMap ValidationWarning.gap?) := by
  rw [automaton.filterMap_gap?_warnings, automaton.gaps_transitionTable]
  refine ⟨automaton.records_transitionTable, fun _ _ _ => automaton.entry?_transitionTable,
    automaton.next?_eq, rfl, automaton.nodup_unserved, ?_⟩
  intro unlike
  exact automaton.dashes_transitionTable unlike

/-- Of the state that is declared twice there is one row, of the symbol that is listed twice there is
one column. -/
theorem table_shows_targets_and_gaps_forked :
    (∀ transition ∈ forked.transitions, transition.target ≠ ⟨"-"⟩) ∧
    forked.transitionTable.dashes =
      forked.validate.value.warnings.filterMap ValidationWarning.gap? ∧
    forked.transitionTable.dashes = [⟨⟨"s"⟩, 'b'⟩] := by
  have unlike : ∀ transition ∈ forked.transitions, transition.target ≠ ⟨"-"⟩ := by decide
  have shown := (table_shows_targets_and_gaps forked).2.2.2.2.2 unlike
  refine ⟨unlike, shown, ?_⟩
  rw [forked.dashes_transitionTable unlike]
  decide

/-- A transition to a state of that name reads as if there were none. -/
example : (Automaton.transitionTable
    { forked with transitions := [⟨⟨"t0"⟩, ⟨"s"⟩, 'a', ⟨"-"⟩⟩] }).dashes =
      [⟨⟨"s"⟩, 'a'⟩, ⟨⟨"s"⟩, 'b'⟩] := by
  simp only [TransitionTable.dashes, Automaton.cellsWhere_transitionTable, Automaton.next?_eq]
  decide

end Acceptor
