import Highlighter.States

/-!
# States that stay

Within a generation states are only ever given out behind the ones that were given out before.  So a
state stands for its continuation for as long as the generation lasts, and a continuation that has a
state gets it again.
-/

namespace Highlighter

namespace States

/-- The same generation, with the states of before and perhaps more. -/
structure GrowsTo (before after : States) : Prop where
  generation : after.generation = before.generation
  continuations : before.continuations <+: after.continuations

theorem GrowsTo.refl (states : States) : states.GrowsTo states :=
  ⟨rfl, List.prefix_refl _⟩

theorem GrowsTo.trans {first second third : States} (one : first.GrowsTo second)
    (two : second.GrowsTo third) : first.GrowsTo third :=
  ⟨two.generation.trans one.generation, one.continuations.trans two.continuations⟩

variable {states later : States} {continuation : Continuation}

theorem stateOf_growsTo (states : States) (continuation : Continuation) :
    states.GrowsTo (states.stateOf continuation).2 := by
  unfold stateOf
  split
  · exact .refl states
  · exact ⟨rfl, List.prefix_append _ _⟩

/-- The continuations that have a state are those that had one, and the one asked for. -/
theorem mem_stateOf {other : Continuation} :
    other ∈ (states.stateOf continuation).2.continuations ↔
      other = continuation ∨ other ∈ states.continuations := by
  unfold stateOf
  split
  · rename_i position found
    have inside := List.findIdx?_eq_some_iff_getElem.mp found
    obtain ⟨bound, same, -⟩ := inside
    have member : continuation ∈ states.continuations := by
      rw [← of_decide_eq_true same]
      exact List.getElem_mem bound
    exact ⟨Or.inr, fun either => either.elim (fun equal => equal ▸ member) id⟩
  · rw [List.mem_append, List.mem_singleton]
    exact or_comm

/-- The state of a continuation stands for it. -/
theorem continuationOf_stateOf (states : States) (continuation : Continuation) :
    (states.stateOf continuation).2.continuationOf (states.stateOf continuation).1 =
      .ok (some continuation) := by
  unfold stateOf
  split
  · rename_i position found
    obtain ⟨bound, same, -⟩ := List.findIdx?_eq_some_iff_getElem.mp found
    have present : states.continuations[position]? = some continuation := by
      rw [List.getElem?_eq_getElem bound, of_decide_eq_true same]
    simp [continuationOf, StateId.isNone, present]
  · simp [continuationOf, StateId.isNone]

/-- A state that stands for something goes on standing for it. -/
theorem GrowsTo.continuationOf {state : StateId} {found : Option Continuation}
    (grows : states.GrowsTo later) (stands : states.continuationOf state = .ok found) :
    later.continuationOf state = .ok found := by
  unfold States.continuationOf at stands ⊢
  split
  · rename_i isNone
    rwa [if_pos isNone] at stands
  · rename_i notNone
    rw [if_neg notNone] at stands
    rw [grows.generation]
    split
    · rename_i old
      rw [if_pos old] at stands
      contradiction
    · rename_i current
      rw [if_neg current] at stands
      obtain ⟨more, same⟩ := grows.continuations
      cases present : states.continuations[state.index - 1]? with
      | none => simp [present] at stands
      | some continuation =>
        have bound := (List.getElem?_eq_some_iff.mp present).1
        rw [← same, List.getElem?_append_left bound, present]
        simpa [present] using stands

/-- A continuation that has a state is given the same one later, and no new one. -/
theorem GrowsTo.stateOf (grows : (states.stateOf continuation).2.GrowsTo later) :
    later.stateOf continuation = ((states.stateOf continuation).1, later) := by
  have member : continuation ∈ (states.stateOf continuation).2.continuations :=
    mem_stateOf.mpr (Or.inl rfl)
  obtain ⟨generation, more, same⟩ := grows
  cases found : states.continuations.findIdx? (· = continuation) with
  | some position =>
    simp only [States.stateOf, found] at generation same ⊢
    rw [← same, List.findIdx?_append, found]
    simp [generation]
  | none =>
    simp only [States.stateOf, found] at generation same ⊢
    rw [← same, List.append_assoc, List.findIdx?_append, found]
    simp [generation, List.findIdx?_cons]

end States

end Highlighter
