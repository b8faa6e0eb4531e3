import Highlighter.Proofs.States
import Mathlib.Data.List.Nodup

/-!
# States in machine words

States as a program keeps them: in words of 32 bits, with one table from continuations to states and
one list from states to continuations.  Counting a generation goes past the largest word to one, and
no state has the number zero.

`StateBook.InStep` says that such a book went through what some states went through.  As long as
neither the generations nor the states of this generation use the words up, the two then answer
alike, and table and list are inverse to each other.
-/

namespace Highlighter

/-- A state in words (`StateId`). -/
structure StateWord where
  generation : UInt32
  index : UInt32
  deriving DecidableEq, Repr

/-- The state that words write. -/
def StateWord.toId (word : StateWord) : StateId :=
  ⟨word.generation.toNat, word.index.toNat⟩

theorem StateWord.toId_injective {first second : StateWord} (same : first.toId = second.toId) :
    first = second := by
  obtain ⟨generation, index⟩ := first
  obtain ⟨other, place⟩ := second
  simp only [toId, StateId.mk.injEq, UInt32.toNat_inj] at same
  rw [same.1, same.2]

/-- The continuations of a generation, each way (`StateRegistry`). -/
structure StateBook where
  generation : UInt32 := 1
  byContinuation : Table Continuation StateWord := .empty
  byIndex : List Continuation := []

namespace StateBook

/-- The state of a continuation, which is a new one if the continuation is
(`StateRegistry.state_of`). -/
def stateOf (book : StateBook) (continuation : Continuation) : StateWord × StateBook :=
  match book.byContinuation.get? continuation with
  | some word => (word, book)
  | none =>
    let word : StateWord := ⟨book.generation, UInt32.ofNat book.byIndex.length + 1⟩
    (word, { book with
      byContinuation := book.byContinuation.insert continuation word
      byIndex := book.byIndex ++ [continuation] })

/-- The continuation that a state stands for, which may be none
(`StateRegistry.continuation_of`). -/
def continuationOf (book : StateBook) (word : StateWord) :
    Except StateError (Option Continuation) :=
  if word.index = 0 then .ok none
  else if word.generation ≠ book.generation then
    .error (.stale word.toId book.generation.toNat)
  else
    match book.byIndex[(word.index - 1).toNat]? with
    | some continuation => .ok (some continuation)
    | none => .error (.unknown word.toId)

/-- A new generation, without states (`StateRegistry.reset`). -/
def reset (book : StateBook) : StateBook :=
  ⟨max (book.generation + 1) 1, .empty, []⟩

/-- A book and states that went through the same. -/
inductive InStep : StateBook → States → Prop where
  | fresh : InStep {} {}
  | stateOf {book : StateBook} {states : States} (inStep : InStep book states)
      (continuation : Continuation) :
      InStep (book.stateOf continuation).2 (states.stateOf continuation).2
  | reset {book : StateBook} {states : States} (inStep : InStep book states) :
      InStep book.reset states.reset

/-- A book that holds just what some states hold. -/
structure Holds (book : StateBook) (states : States) : Prop where
  generation : book.generation.toNat = states.generation
  byIndex : book.byIndex = states.continuations
  byContinuation : ∀ continuation,
    (book.byContinuation.get? continuation).map StateWord.toId =
      (states.continuations.findIdx? (· = continuation)).map fun position =>
        ⟨states.generation, position + 1⟩

/-- The number of states, and of generations, that words can tell from each other. -/
abbrev capacity : Nat := UInt32.size - 1

end StateBook

namespace States

variable {states : States}

/-- The position of a continuation among those that are all different. -/
theorem findIdx?_eq_some_iff {continuations : List Continuation} (distinct : continuations.Nodup)
    {continuation : Continuation} {position : Nat} :
    continuations.findIdx? (· = continuation) = some position ↔
      continuations[position]? = some continuation := by
  rw [List.findIdx?_eq_some_iff_getElem]
  constructor
  · rintro ⟨bound, same, -⟩
    rw [List.getElem?_eq_getElem bound, of_decide_eq_true same]
  · intro present
    obtain ⟨bound, same⟩ := List.getElem?_eq_some_iff.mp present
    refine ⟨bound, decide_eq_true same, fun other before equal => ?_⟩
    have alike := (of_decide_eq_true equal).trans same.symm
    exact absurd ((List.Nodup.getElem_inj_iff distinct).mp alike) (Nat.ne_of_lt before)

/-- A state stands for a continuation if it has the number of its place. -/
theorem continuationOf_eq_some_iff {state : StateId} {continuation : Continuation} :
    states.continuationOf state = .ok (some continuation) ↔
      state.isNone = false ∧ state.generation = states.generation ∧
        states.continuations[state.index - 1]? = some continuation := by
  unfold continuationOf
  split
  · rename_i none
    simp [none]
  · rename_i present
    split
    · rename_i old
      simp [old]
    · rename_i current
      split <;> rename_i found <;> simp_all

/-- A continuation that is new is put behind the others, so they are all different. -/
theorem stateOf_nodup (distinct : states.continuations.Nodup) (continuation : Continuation) :
    (states.stateOf continuation).2.continuations.Nodup := by
  unfold stateOf
  split
  · exact distinct
  · rename_i absent
    rw [List.findIdx?_eq_none_iff] at absent
    refine List.nodup_append.mpr ⟨distinct, List.nodup_singleton _, ?_⟩
    rintro other member _ (_ | ⟨_, ⟨⟩⟩) rfl
    simpa using absent other member

/-- At most one state is given out at a time. -/
theorem length_stateOf_le (states : States) (continuation : Continuation) :
    (states.stateOf continuation).2.continuations.length ≤ states.continuations.length + 1 := by
  unfold stateOf
  split
  · exact Nat.le_succ _
  · exact Nat.le_of_eq List.length_append

/-- A continuation that a state stands for is given that state again, and no new one. -/
theorem stateOf_of_continuationOf (distinct : states.continuations.Nodup) {state : StateId}
    {continuation : Continuation} (stands : states.continuationOf state = .ok (some continuation)) :
    states.stateOf continuation = (state, states) := by
  obtain ⟨present, current, place⟩ := continuationOf_eq_some_iff.mp stands
  have positive : state.index ≠ 0 := by simpa [StateId.isNone] using present
  simp only [stateOf, (findIdx?_eq_some_iff distinct).mpr place, ← current,
    Nat.sub_add_cancel (Nat.one_le_iff_ne_zero.mpr positive)]

/-- Two states that stand for continuations are the same exactly if these are. -/
theorem eq_iff_of_continuationOf (distinct : states.continuations.Nodup) {first second : StateId}
    {one two : Continuation} (stands : states.continuationOf first = .ok (some one))
    (standsToo : states.continuationOf second = .ok (some two)) : first = second ↔ one = two := by
  constructor
  · rintro rfl
    rw [stands] at standsToo
    cases standsToo
    rfl
  · rintro rfl
    have again := stateOf_of_continuationOf distinct stands
    rw [stateOf_of_continuationOf distinct standsToo] at again
    exact (congrArg Prod.fst again).symm

end States

namespace StateBook

variable {book : StateBook} {states : States}

@[simp] theorem stateOf_generation (book : StateBook) (continuation : Continuation) :
    (book.stateOf continuation).2.generation = book.generation := by
  unfold stateOf
  split <;> rfl

theorem InStep.distinct (inStep : InStep book states) : states.continuations.Nodup := by
  induction inStep with
  | fresh => exact List.nodup_nil
  | stateOf _ continuation ih => exact States.stateOf_nodup ih continuation
  | reset => exact List.nodup_nil

theorem reset_generation_toNat (book : StateBook) (few : book.generation.toNat < capacity) :
    book.reset.generation.toNat = book.generation.toNat + 1 := by
  have next : (book.generation + 1).toNat = book.generation.toNat + 1 := by
    rw [UInt32.toNat_add]
    exact Nat.mod_eq_of_lt (Nat.lt_of_lt_of_le (Nat.succ_lt_succ few) (by decide))
  show (if book.generation + 1 ≤ 1 then 1 else book.generation + 1).toNat = _
  split
  · rename_i least
    rw [UInt32.le_iff_toNat_le, next] at least
    exact Nat.le_antisymm (Nat.le_add_left 1 _) least
  · exact next

/-- The generation is the one that it should be, until words are used up. -/
theorem InStep.generation (inStep : InStep book states) (few : states.generation ≤ capacity) :
    book.generation.toNat = states.generation := by
  induction inStep with
  | fresh => rfl
  | @stateOf book states _ continuation ih =>
    have same := (States.stateOf_growsTo states continuation).generation
    rw [stateOf_generation, same]
    exact ih (same ▸ few)
  | @reset book states _ ih =>
    have before : states.generation < capacity := few
    have same := ih (Nat.le_of_lt before)
    rw [reset_generation_toNat book (same ▸ before), same]
    rfl

/-- A new state is the next one in words as well, until words are used up. -/
theorem nextIndex_toNat {count : Nat} (few : count < capacity) :
    (UInt32.ofNat count + 1).toNat = count + 1 := by
  rw [UInt32.toNat_add, UInt32.toNat_ofNat_of_lt' (Nat.lt_of_lt_of_le few (by decide))]
  exact Nat.mod_eq_of_lt (Nat.lt_of_lt_of_le (Nat.succ_lt_succ few) (by decide))

namespace Holds

/-- The state that a book gives out is the one that is due, and the book goes on holding what the
states hold. -/
theorem stateOf (holds : book.Holds states) (continuation : Continuation)
    (few : (states.stateOf continuation).2.continuations.length ≤ capacity) :
    (book.stateOf continuation).1.toId = (states.stateOf continuation).1 ∧
      (book.stateOf continuation).2.Holds (states.stateOf continuation).2 := by
  have lookup := holds.byContinuation continuation
  cases known : states.continuations.findIdx? (· = continuation) with
  | some position =>
    rw [known, Option.map_some, Option.map_eq_some_iff] at lookup
    obtain ⟨word, found, written⟩ := lookup
    simp only [StateBook.stateOf, States.stateOf, known, found]
    exact ⟨written, holds⟩
  | none =>
    rw [known, Option.map_none, Option.map_eq_none_iff] at lookup
    simp only [States.stateOf, known, List.length_append, List.length_singleton] at few
    have written : StateWord.toId ⟨book.generation, UInt32.ofNat book.byIndex.length + 1⟩ =
        ⟨states.generation, states.continuations.length + 1⟩ := by
      rw [StateWord.toId, holds.byIndex, nextIndex_toNat few, holds.generation]
    simp only [StateBook.stateOf, States.stateOf, known, lookup]
    refine ⟨written, holds.generation, congrArg (· ++ [continuation]) holds.byIndex, ?_⟩
    intro other
    rw [Table.get?_insert, List.findIdx?_append]
    by_cases same : continuation = other
    · subst same
      rw [if_pos rfl, Option.map_some, written, known]
      simp
    · rw [if_neg same, holds.byContinuation other]
      cases states.continuations.findIdx? (· = other) <;> simp [List.findIdx?_cons, same]

theorem continuationOf (holds : book.Holds states) (word : StateWord) :
    book.continuationOf word = states.continuationOf word.toId := by
  have none : word.toId.isNone = true ↔ word.index = 0 := by
    rw [StateId.isNone, beq_iff_eq, StateWord.toId, ← UInt32.toNat_inj]
    rfl
  have other : word.toId.generation ≠ states.generation ↔ word.generation ≠ book.generation := by
    rw [StateWord.toId, ← holds.generation, Ne, UInt32.toNat_inj]
  unfold StateBook.continuationOf States.continuationOf
  simp only [none, other]
  split
  · rfl
  · rename_i present
    have positive : (1 : UInt32) ≤ word.index := by
      rw [UInt32.le_iff_toNat_le]
      exact Nat.one_le_iff_ne_zero.mpr fun zero => present (UInt32.toNat_inj.mp zero)
    rw [holds.generation, holds.byIndex, UInt32.toNat_sub_of_le _ _ positive]
    rfl

/-- The table and the list are inverse to each other. -/
theorem byContinuation_iff (holds : book.Holds states) (distinct : states.continuations.Nodup)
    (continuation : Continuation) (word : StateWord) :
    book.byContinuation.get? continuation = some word ↔
      book.continuationOf word = .ok (some continuation) := by
  have lookup := holds.byContinuation continuation
  have written : book.byContinuation.get? continuation = some word ↔
      (book.byContinuation.get? continuation).map StateWord.toId = some word.toId := by
    constructor
    · exact fun found => congrArg (Option.map StateWord.toId) found
    · intro found
      obtain ⟨other, present, same⟩ := Option.map_eq_some_iff.mp found
      rw [present, StateWord.toId_injective same]
  rw [written, lookup, holds.continuationOf, States.continuationOf_eq_some_iff,
    Option.map_eq_some_iff]
  simp only [States.findIdx?_eq_some_iff distinct]
  constructor
  · rintro ⟨position, place, same⟩
    rw [← same]
    exact ⟨rfl, rfl, place⟩
  · rintro ⟨present, current, place⟩
    have positive : word.toId.index ≠ 0 := by simpa [StateId.isNone] using present
    refine ⟨word.toId.index - 1, place, ?_⟩
    rw [← current, Nat.sub_add_cancel (Nat.one_le_iff_ne_zero.mpr positive)]

end Holds

/-- A book that goes through what states go through holds what they hold, until words are used
up. -/
theorem InStep.holds (inStep : InStep book states) (fewGenerations : states.generation ≤ capacity)
    (fewStates : states.continuations.length ≤ capacity) : book.Holds states := by
  induction inStep with
  | fresh => exact ⟨rfl, rfl, fun _ => rfl⟩
  | @stateOf book states _ continuation ih =>
    have grows := States.stateOf_growsTo states continuation
    have before := ih (grows.generation ▸ fewGenerations)
      (Nat.le_trans grows.continuations.length_le fewStates)
    exact (before.stateOf continuation fewStates).2
  | @reset book states inStep _ => exact ⟨inStep.reset.generation fewGenerations, rfl, fun _ => rfl⟩

end StateBook

/-- States that a book can have gone through as well: they came about by giving out states and by
new generations. -/
def States.Booked (states : States) : Prop :=
  ∃ book, StateBook.InStep book states

namespace States.Booked

variable {states : States}

theorem stateOf (booked : states.Booked) (continuation : Continuation) :
    (states.stateOf continuation).2.Booked :=
  booked.imp' (fun book => (book.stateOf continuation).2)
    fun _ inStep => inStep.stateOf continuation

theorem reset (booked : states.Booked) : states.reset.Booked :=
  booked.imp' StateBook.reset fun _ inStep => inStep.reset

theorem distinct (booked : states.Booked) : states.continuations.Nodup :=
  booked.elim fun _ inStep => inStep.distinct

end States.Booked

end Highlighter
