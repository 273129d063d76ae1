import Acceptor.Proofs.Building.Tokens
import Acceptor.Proofs.Editing.Effect

/-! # Identifiers of transitions

A transition is told apart from the others by its identifier alone, and removing one takes the first
that carries it. So a workspace has to be unambiguous: no identifier is carried twice, the source
never repeats a token, and no token that is still to come is carried already. Every edit keeps this
(`Workspace.Unambiguous.apply`), whatever the states do. A counting source provides for it behind
any stem; then no identifier is handed out twice, not even when its transition has gone, and
removing a transition takes that one and undoes adding it (`transition_ids_stay_distinct`).
-/

namespace List

/-- Where keys do not repeat, no other item has the key of an item. -/
theorem key_ne_of_nodup {α κ : Type} {key : α → κ} {earlier later : List α} {item : α}
    (distinct : ((earlier ++ item :: later).map key).Nodup) :
    ∀ other ∈ earlier ++ later, key other ≠ key item := by
  have perm : ((earlier ++ item :: later).map key).Perm
      (key item :: (earlier ++ later).map key) := perm_middle.map key
  have apart := (nodup_cons.mp (perm.nodup_iff.mp distinct)).1
  exact fun other member same => apart (same ▸ mem_map_of_mem member)

end List

namespace Acceptor

namespace Automaton

variable {automaton : Automaton}

/-- The identifiers of the transitions, in their order. -/
def transitionIds (automaton : Automaton) : List TransitionId :=
  automaton.transitions.map Transition.id

/-- Where no identifier is carried twice, removing a transition takes that one. -/
theorem removeTransition_of_mem (distinct : automaton.transitionIds.Nodup)
    {transition : Transition} (listed : transition ∈ automaton.transitions) :
    ∃ earlier later, automaton.transitions = earlier ++ transition :: later ∧
      (∀ other ∈ earlier ++ later, other.id ≠ transition.id) ∧
      automaton.removeTransition transition.id =
        (some transition, { automaton with transitions := earlier ++ later }) := by
  obtain ⟨removed, earlier, later, named, split, -, does⟩ | ⟨unknown, -⟩ :=
    automaton.removeTransition_cases transition.id
  · rw [transitionIds] at distinct
    have present : removed ∈ automaton.transitions := by simp [split]
    obtain rfl := List.inj_on_of_nodup_map distinct present listed named
    rw [split] at distinct
    exact ⟨earlier, later, split, List.key_ne_of_nodup distinct, does⟩
  · exact absurd rfl (unknown transition listed)

/-- A transition that was put at the end under an unused identifier is taken away again. -/
theorem removeTransition_withTransition {added : Transition}
    (unused : ∀ transition ∈ automaton.transitions, transition.id ≠ added.id) :
    removeTransition { automaton with transitions := automaton.transitions ++ [added] } added.id =
      (some added, automaton) := by
  have passed (other : Transition) (member : other ∈ automaton.transitions) :
      ¬ (other.id == added.id) = true := by
    simpa using unused other member
  have found : ((automaton.transitions ++ [added]).find? fun transition =>
      transition.id == added.id) = some added := by
    rw [List.find?_append, List.find?_eq_none.mpr passed, Option.none_or, List.find?_cons,
      beq_self_eq_true]
  have erased : ((automaton.transitions ++ [added]).eraseP fun transition =>
      transition.id == added.id) = automaton.transitions := by
    rw [List.eraseP_append_right _ passed, List.eraseP_cons, beq_self_eq_true, cond_true,
      List.append_nil]
  simp only [removeTransition, found, erased]

end Automaton

namespace Edit

/-- The identifier that was given to a new transition. -/
def Answer.handedOut? : Answer → Option TransitionId
  | transitionAdded id => some id
  | _ => none

/-- An edit either draws a token and lists a transition under it, behind the others, or leaves the
source alone and lists no transition that was not there. -/
theorem transitions_apply (workspace : Workspace) (edit : Edit) :
    (∃ transition : Transition, transition.id = ⟨workspace.tokens.draw.1⟩ ∧
      (edit.apply workspace).1.handedOut? = some transition.id ∧
      (edit.apply workspace).2.automaton.transitions =
        workspace.automaton.transitions ++ [transition] ∧
      (edit.apply workspace).2.tokens = workspace.tokens.draw.2) ∨
    ((edit.apply workspace).1.handedOut? = none ∧
      (edit.apply workspace).2.automaton.transitions.Sublist workspace.automaton.transitions ∧
      (edit.apply workspace).2.tokens = workspace.tokens) := by
  cases edit with
  | addState label position => exact .inr ⟨rfl, .refl _, rfl⟩
  | removeState id =>
    refine .inr ⟨rfl, ?_, rfl⟩
    obtain ⟨_, kept, _, -, sublist, -, does⟩ := workspace.automaton.exists_removeState_eq id
    simp only [apply, does]
    exact sublist
  | addTransition source symbol target =>
    exact .inl ⟨⟨⟨workspace.tokens.draw.1⟩, source, symbol, target⟩, rfl, rfl, rfl, rfl⟩
  | removeTransition id =>
    refine .inr ⟨rfl, ?_, rfl⟩
    obtain ⟨kept, sublist, does⟩ := workspace.automaton.exists_removeTransition_eq id
    simp only [apply, does]
    exact sublist
  | setAccepting id accepting => exact .inr ⟨rfl, .refl _, rfl⟩
  | setInitial id => exact .inr ⟨rfl, .refl _, rfl⟩

end Edit

namespace Workspace

/-- The identifiers that a history gives to new transitions, also to those that it removes later. -/
def handedOut (workspace : Workspace) (history : List Edit) : List TransitionId :=
  (workspace.answers history).filterMap Edit.Answer.handedOut?

/-- The identifiers of transitions are distinct and will be. -/
structure Unambiguous (workspace : Workspace) : Prop where
  distinct : workspace.automaton.transitionIds.Nodup
  unrepeated : Function.Injective workspace.tokens.tokenAt
  unused : ∀ transition ∈ workspace.automaton.transitions, ∀ turn,
    transition.id ≠ ⟨workspace.tokens.tokenAt turn⟩

variable {workspace : Workspace}

namespace Unambiguous

/-- Behind a stem only numerals are to come, so it is enough to keep clear of these. -/
theorem of_counting {stem : String} {next : Nat}
    (counting : workspace.tokens = .counting stem next)
    (distinct : workspace.automaton.transitionIds.Nodup)
    (unused : ∀ transition ∈ workspace.automaton.transitions, ∀ number ≥ next,
      transition.id.text ≠ stem ++ toString number) : workspace.Unambiguous where
  distinct := distinct
  unrepeated := by
    rw [counting]
    exact TokenSource.tokenAt_counting_injective stem next
  unused transition listed turn same := by
    have text := congrArg TransitionId.text same
    rw [counting, TokenSource.tokenAt] at text
    exact unused transition listed (next + turn) (Nat.le_add_right next turn) text

/-- What one edit leaves. The token that it draws is the first of those that were to come, so it
differs both from what is listed and from what is to come from then on. -/
theorem apply (unambiguous : workspace.Unambiguous) (edit : Edit) :
    (edit.apply workspace).2.Unambiguous := by
  obtain ⟨transition, named, -, grown, drawn⟩ | ⟨-, sublist, kept⟩ :=
    Edit.transitions_apply workspace edit
  · have first : transition.id = ⟨workspace.tokens.tokenAt 0⟩ := by
      rw [named, TokenSource.draw_eq_tokenAt]
    have later (turn : Nat) : (edit.apply workspace).2.tokens.tokenAt turn =
        workspace.tokens.tokenAt (turn + 1) := by
      rw [drawn]
      exact workspace.tokens.tokenAt_draw turn
    refine ⟨?_, ?_, ?_⟩
    · rw [Automaton.transitionIds, grown, List.map_append]
      refine unambiguous.distinct.append (List.nodup_singleton _) ?_
      rw [List.map_singleton, List.disjoint_singleton, first]
      intro carried
      obtain ⟨other, listed, same⟩ := List.mem_map.mp carried
      exact unambiguous.unused other listed 0 same
    · intro one other same
      rw [later, later] at same
      exact Nat.succ.inj (unambiguous.unrepeated same)
    · intro other listed turn
      rw [later]
      rw [grown, List.mem_append, List.mem_singleton] at listed
      obtain before | rfl := listed
      · exact unambiguous.unused other before (turn + 1)
      · rw [first]
        intro same
        exact Nat.zero_ne_add_one turn (unambiguous.unrepeated (TransitionId.mk.inj same))
  · refine ⟨unambiguous.distinct.sublist (sublist.map _), ?_, ?_⟩
    · rw [kept]
      exact unambiguous.unrepeated
    · intro other listed turn
      rw [kept]
      exact unambiguous.unused other (sublist.subset listed) turn

theorem after (unambiguous : workspace.Unambiguous) (history : List Edit) :
    (workspace.after history).Unambiguous := by
  induction history generalizing workspace with
  | nil => exact unambiguous
  | cons edit rest ih => exact ih (unambiguous.apply edit)

end Unambiguous

/-- Identifiers are handed out in the turn of the source, none being left out. -/
theorem exists_handedOut_eq (workspace : Workspace) (history : List Edit) :
    ∃ count, workspace.handedOut history =
      (List.range count).map fun turn => ⟨workspace.tokens.tokenAt turn⟩ := by
  induction history generalizing workspace with
  | nil => exact ⟨0, rfl⟩
  | cons edit rest ih =>
    obtain ⟨count, later⟩ := ih (edit.apply workspace).2
    rw [handedOut] at later
    rw [handedOut, answers, List.filterMap_cons]
    obtain ⟨transition, named, told, -, drawn⟩ | ⟨silent, -, kept⟩ :=
      Edit.transitions_apply workspace edit
    · refine ⟨count + 1, ?_⟩
      simp only [told, later, drawn, named, TokenSource.draw_eq_tokenAt, TokenSource.tokenAt_draw,
        List.range_succ_eq_map, List.map_cons, List.map_map]
      rfl
    · refine ⟨count, ?_⟩
      simp only [silent, later, kept]

/-- No identifier is handed out that is carried already or was handed out before. -/
theorem Unambiguous.nodup_handedOut (unambiguous : workspace.Unambiguous) (history : List Edit) :
    (workspace.automaton.transitionIds ++ workspace.handedOut history).Nodup := by
  obtain ⟨count, inTurn⟩ := workspace.exists_handedOut_eq history
  rw [inTurn]
  refine unambiguous.distinct.append (List.nodup_range.map ?_) ?_
  · intro first second same
    exact unambiguous.unrepeated (TransitionId.mk.inj same)
  · intro id carried handedOut
    obtain ⟨transition, listed, rfl⟩ := List.mem_map.mp carried
    obtain ⟨turn, -, same⟩ := List.mem_map.mp handedOut
    exact unambiguous.unused transition listed turn same.symm

end Workspace

/-- Let no two transitions carry one identifier and none carry one that the counting source may still
hand out. Then after any history of edits no two transitions carry one identifier, none was handed
out that was carried at the beginning or handed out before, removing a transition takes that one and
keeps the others in their order, and adding one and removing it again is as if nothing had
happened. -/
theorem transition_ids_stay_distinct {workspace : Workspace} {stem : String} {next : Nat}
    (counting : workspace.tokens = .counting stem next)
    (distinct : workspace.automaton.transitionIds.Nodup)
    (unused : ∀ transition ∈ workspace.automaton.transitions, ∀ number ≥ next,
      transition.id.text ≠ stem ++ toString number)
    (history : List Edit) :
    (workspace.after history).automaton.transitionIds.Nodup ∧
    (workspace.automaton.transitionIds ++ workspace.handedOut history).Nodup ∧
    (∀ transition ∈ (workspace.after history).automaton.transitions, ∃ earlier later,
      (workspace.after history).automaton.transitions = earlier ++ transition :: later ∧
      (∀ other ∈ earlier ++ later, other.id ≠ transition.id) ∧
      (workspace.after history).automaton.removeTransition transition.id =
        (some transition,
          { (workspace.after history).automaton with transitions := earlier ++ later })) ∧
    ∀ source symbol target id added tokens,
      (workspace.after history).automaton.addTransition source symbol target
        (workspace.after history).tokens = (id, added, tokens) →
      added.removeTransition id =
        (some ⟨id, source, symbol, target⟩, (workspace.after history).automaton) := by
  have atFirst := Workspace.Unambiguous.of_counting counting distinct unused
  have unambiguous := atFirst.after history
  refine ⟨unambiguous.distinct, atFirst.nodup_handedOut history, ?_, ?_⟩
  · intro transition listed
    exact Automaton.removeTransition_of_mem unambiguous.distinct listed
  · rintro source symbol target id added tokens ⟨rfl, rfl, rfl⟩
    refine Automaton.removeTransition_withTransition fun transition listed => ?_
    have unused := unambiguous.unused transition listed 0
    rw [← TokenSource.draw_eq_tokenAt] at unused
    exact unused

/-- The stem ends in a digit, and one transition is called like the stem. -/
theorem transition_ids_stay_distinct_bridged :
    ((Workspace.mk bridged (.counting "t1" 5)).after
      [.addTransition ⟨"q0"⟩ 'a' ⟨"q1"⟩, .removeTransition ⟨"t15"⟩, .removeState ⟨"q2"⟩,
        .addTransition ⟨"q0"⟩ 'a' ⟨"q1"⟩]).automaton.transitionIds.Nodup ∧
    (bridged.transitionIds ++ (Workspace.mk bridged (.counting "t1" 5)).handedOut
      [.addTransition ⟨"q0"⟩ 'a' ⟨"q1"⟩, .removeTransition ⟨"t15"⟩, .removeState ⟨"q2"⟩,
        .addTransition ⟨"q0"⟩ 'a' ⟨"q1"⟩]).Nodup := by
  have distinct : bridged.transitionIds.Nodup := by decide
  have unused : ∀ transition ∈ bridged.transitions, ∀ number ≥ 5,
      transition.id.text ≠ "t1" ++ toString number := by
    intro transition listed number _ same
    have letters := congrArg String.toList same
    simp only [bridged, List.mem_cons, List.not_mem_nil, or_false] at listed
    rcases listed with rfl | rfl | rfl | rfl <;> simp at letters
  have kept := @transition_ids_stay_distinct ⟨bridged, .counting "t1" 5⟩ "t1" 5 rfl distinct unused
  exact ⟨(kept _).1, (kept _).2.1⟩

/-- The first of the two tokens is not handed out again, though its transition has gone. -/
example : (Workspace.mk bridged (.counting "t1" 5)).handedOut
    [.addTransition ⟨"q0"⟩ 'a' ⟨"q1"⟩, .removeTransition ⟨"t15"⟩,
      .addTransition ⟨"q0"⟩ 'a' ⟨"q1"⟩] = [⟨"t15"⟩, ⟨"t16"⟩] := by decide

end Acceptor
