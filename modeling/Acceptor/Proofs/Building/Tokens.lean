import Acceptor.Automaton.Builder
import Mathlib.Logic.Function.Iterate

/-! # Names in turn

Edges are named one after another, so the name of an edge depends on its place and on nothing else
(`Builder.nameEdges_eq_mapIdx`). A counting source never hands out a token twice, since numerals of
different numbers differ behind the same stem (`tokenAt_counting_injective`); transitions that it
names can be told apart by their names.
-/

namespace Acceptor

namespace TokenSource

/-- The token that comes after as many others: behind its stem a counting source has the number of
the turn, a random one writes the number that its generator has come to, and any other has said what
it hands out. -/
def tokenAt : TokenSource → Nat → String
  | counting stem next, turn => stem ++ toString (next + turn)
  | random generator, turn =>
    "t_" ++ hex ((fun generator => generator.doubleWord.2)^[turn] generator).doubleWord.1
  | supplied tokens, turn => tokens turn

theorem draw_eq_tokenAt (source : TokenSource) : source.draw.1 = source.tokenAt 0 := by
  cases source with
  | counting stem next => rfl
  | random generator => rw [draw, tokenAt, Function.iterate_zero_apply]
  | supplied tokens => rfl

/-- Once a token has been drawn, the others move up by one turn. -/
theorem tokenAt_draw (source : TokenSource) (turn : Nat) :
    source.draw.2.tokenAt turn = source.tokenAt (turn + 1) := by
  cases source with
  | counting stem next => rw [draw, tokenAt, tokenAt, Nat.add_assoc, Nat.add_comm 1]
  | random generator => rw [draw, tokenAt, tokenAt, Function.iterate_succ_apply]
  | supplied tokens => rfl

theorem tokenAt_counting_injective (stem : String) (next : Nat) :
    Function.Injective (counting stem next).tokenAt := by
  intro first second same
  rw [tokenAt, tokenAt, String.append_right_inj] at same
  exact Nat.add_left_cancel (Nat.repr_injective same)

end TokenSource

/-- Where the edge applies. -/
def Edge.situation (edge : Edge) : Situation := ⟨edge.source, edge.symbol⟩

namespace Builder

/-- Each edge is named by the token whose turn it is. -/
theorem nameEdges_eq_mapIdx (tokens : TokenSource) (edges : List Edge) :
    nameEdges tokens edges = edges.mapIdx fun place edge =>
      ⟨⟨tokens.tokenAt place⟩, edge.source, edge.symbol, edge.target⟩ := by
  induction edges generalizing tokens with
  | nil => rfl
  | cons edge rest ih =>
    simp only [nameEdges, ih, List.mapIdx_cons, TokenSource.drawTransitionId,
      TokenSource.draw_eq_tokenAt, TokenSource.tokenAt_draw]

/-- Every transition has an edge behind it. -/
theorem exists_edge_of_mem_nameEdges {tokens : TokenSource} {edges : List Edge}
    {transition : Transition} (named : transition ∈ nameEdges tokens edges) :
    ∃ edge ∈ edges, transition.source = edge.source ∧ transition.symbol = edge.symbol ∧
      transition.target = edge.target := by
  rw [nameEdges_eq_mapIdx] at named
  obtain ⟨place, within, rfl⟩ := List.mem_mapIdx.mp named
  exact ⟨_, List.getElem_mem within, rfl, rfl, rfl⟩

theorem map_situation_nameEdges (tokens : TokenSource) (edges : List Edge) :
    (nameEdges tokens edges).map Transition.situation = edges.map Edge.situation := by
  induction edges generalizing tokens with
  | nil => rfl
  | cons edge rest ih =>
    rw [nameEdges, List.map_cons, List.map_cons, ih]
    rfl

theorem nodup_id_nameEdges (stem : String) (next : Nat) (edges : List Edge) :
    ((nameEdges (.counting stem next) edges).map Transition.id).Nodup := by
  rw [nameEdges_eq_mapIdx]
  refine List.pairwise_iff_getElem.mpr fun first second _ _ before same => ?_
  simp only [List.getElem_map, List.getElem_mapIdx, TransitionId.mk.injEq] at same
  exact Nat.ne_of_lt before (TokenSource.tokenAt_counting_injective stem next same)

end Builder

end Acceptor
