import Highlighter.Proofs.Line.Invariants
import Highlighter.Proofs.Session.Issued
import Highlighter.Proofs.States.Words
import Mathlib.Control.Monad.Basic

/-!
# States as handles

What a session gives out as a state can be relied on: until the language is set again it stands for
the one continuation that it was given out for, no other state stands for that, and afterwards it is
refused.  All this is about numbers; `States.Booked` carries it over to words, since nothing
happens to the states of a session but that a state is given out or a new generation starts.
-/

namespace Highlighter

namespace Line.Run

variable {run : Run} (options : Options) (line : List Char)

theorem switchLanguage_booked (booked : run.states.Booked) (name : String) :
    (run.switchLanguage name).states.Booked := by
  rw [switchLanguage_eq]
  split
  · exact booked
  · split
    · exact booked
    · exact booked.stateOf _

/-- What an action does to states is to give some out. -/
theorem perform_booked (booked : run.states.Booked) (action : Action) :
    (run.perform options line action).states.Booked := by
  cases action with
  | paint painting =>
    have same : (run.paint options line painting).states = run.states := by
      unfold paint
      split <;> rfl
    exact same.symm ▸ booked
  | arm restart => exact booked.stateOf _
  | close => exact booked.stateOf _
  | switchLanguage name => exact switchLanguage_booked booked name

/-- So is what a whole line does to them. -/
theorem start_booked (booked : run.states.Booked) (restart : Restart) :
    (run.start options line restart).states.Booked :=
  start_keeps (fun run => run.states.Booked) (fun _ booked => booked)
    (fun _ action booked => perform_booked options line booked action) restart booked

end Line.Run

namespace Session

variable {session : Session} {state : StateId}

theorem runLine_booked (booked : session.states.Booked) (state : StateId)
    (continuation : Option Continuation) (line : List Char) :
    (session.runLine state continuation line).states.Booked := by
  have started : (session.startRun state continuation).2.states.Booked := by
    cases continuation with
    | none => exact booked.stateOf _
    | some found => exact booked
  unfold runLine
  dsimp only
  split
  · exact started
  · exact Line.Run.start_booked session.options line started _

theorem tagLine_booked (booked : session.states.Booked) (state : StateId) (line : List Char) :
    (session.tagLine state line).2.states.Booked := by
  cases stands : session.states.continuationOf state with
  | error error =>
    rw [tagLine_of_error stands]
    exact booked
  | ok continuation =>
    rw [tagLine_eq stands]
    exact runLine_booked booked state continuation line

theorem perform_booked (booked : session.states.Booked) (call : Call) :
    (session.perform call).states.Booked := by
  cases call with
  | setLanguage name => exact booked.reset.stateOf _
  | initialState enabled => exact booked.stateOf _
  | describe state => exact booked
  | tagLine state line => exact tagLine_booked booked state line
  | tagLineInto state line report sink =>
    rw [perform, (tagLineInto_tags ..).2]
    exact tagLine_booked booked state line

/-- Whatever calls led to a session, its states came about by giving out states and by new
generations. -/
theorem performAll_booked (booked : session.states.Booked) (calls : List Call) :
    (session.performAll calls).states.Booked :=
  performAll_keeps (fun session => session.states.Booked)
    (fun _ call booked => perform_booked booked call) calls booked

theorem new_booked (library : Library) (options : Options) :
    (new library options).states.Booked :=
  ⟨{}, .fresh⟩

/-- How often calls set the language. -/
def resets (calls : List Call) : Nat :=
  calls.countP fun call => !call.keepsGeneration

/-- A generation starts when the language is set, and only then. -/
theorem perform_generation (sound : session.Sound) (call : Call) :
    (session.perform call).states.generation = session.states.generation + resets [call] := by
  cases keeps : call.keepsGeneration with
  | true =>
    rw [(perform_growsTo sound keeps).states.generation]
    simp [resets, keeps]
  | false =>
    cases call with
    | setLanguage name => exact (States.stateOf_growsTo session.states.reset _).generation
    | _ => cases keeps

theorem performAll_generation (sound : session.Sound) (calls : List Call) :
    (session.performAll calls).states.generation = session.states.generation + resets calls := by
  induction calls generalizing session with
  | nil => rfl
  | cons call calls ih =>
    rw [performAll_cons, ih (perform_sound sound call), perform_generation sound call,
      Nat.add_assoc]
    exact congrArg (session.states.generation + ·) List.countP_append.symm

/-- What stands for something was given out in the generation of the states. -/
theorem stale_of_stands {states later : States} {found : Continuation}
    (stands : states.continuationOf state = .ok (some found))
    (newer : states.generation < later.generation) :
    later.continuationOf state = .error (.stale state later.generation) := by
  obtain ⟨present, current, -⟩ := States.continuationOf_eq_some_iff.mp stands
  rw [States.continuationOf, present, current]
  simp only [Bool.false_eq_true, if_false]
  rw [if_pos (Nat.ne_of_lt newer)]

/-- Whatever the library, the options and the calls that led to a session, for every state that was
given out since the language was set:

* it stands for one continuation, and this has no other state, until the language is set again;
* once it is set again, tagging a line from the state is refused and changes nothing.

Two states that stand for continuations are the same exactly if these are.  In words all this is the
same, unless the language was set or states were given out so often that words are used up: a book
that went through what the states went through answers alike, and its table and its list are inverse
to each other. -/
theorem issued_state_stands (library : Library) (options : Options) (calls : List Call) :
    let session := (new library options).performAll calls
    (∀ state, (new library options).Issued calls state →
      (∃ continuation, ∀ later : List Call, (∀ call ∈ later, call.keepsGeneration) →
        (session.performAll later).states.continuationOf state = .ok (some continuation) ∧
        (session.performAll later).states.stateOf continuation =
          (state, (session.performAll later).states)) ∧
      ∀ (later : List Call) (line : List Char), (∃ call ∈ later, call.keepsGeneration = false) →
        (session.performAll later).tagLine state line =
          (.error (.stale state (session.performAll later).states.generation),
            session.performAll later)) ∧
    (∀ first second one two, session.states.continuationOf first = .ok (some one) →
      session.states.continuationOf second = .ok (some two) → (first = second ↔ one = two)) ∧
    (resets calls < StateBook.capacity →
      session.states.continuations.length < StateBook.capacity →
      (∃ book, StateBook.InStep book session.states) ∧
      ∀ book, StateBook.InStep book session.states →
        (∀ word, book.continuationOf word = session.states.continuationOf word.toId) ∧
        (∀ continuation, (book.stateOf continuation).1.toId =
          (session.states.stateOf continuation).1) ∧
        ∀ continuation word, book.byContinuation.get? continuation = some word ↔
          book.continuationOf word = .ok (some continuation)) := by
  intro session
  have sound : session.Sound := performAll_sound (new_sound library options) calls
  have booked : session.states.Booked := performAll_booked (new_booked library options) calls
  refine ⟨fun state issued => ?_, ?_, fun fewResets fewStates => ⟨booked, ?_⟩⟩
  · obtain ⟨continuation, stands⟩ := issued.stands (new_sound library options)
    refine ⟨⟨continuation, fun later keep => ?_⟩, fun later line ⟨call, member, sets⟩ => ?_⟩
    · have stillStands := (performAll_growsTo sound keep).states.continuationOf stands
      exact ⟨stillStands, States.stateOf_of_continuationOf (performAll_booked booked later).distinct
        stillStands⟩
    · have newer : session.states.generation < (session.performAll later).states.generation := by
        rw [performAll_generation sound]
        exact Nat.lt_add_of_pos_right (List.countP_pos_iff.mpr ⟨call, member, by simp [sets]⟩)
      exact tagLine_of_error (stale_of_stands stands newer) line
  · intro first second one two stands standsToo
    exact States.eq_iff_of_continuationOf booked.distinct stands standsToo
  · intro book inStep
    have generation : session.states.generation = 1 + resets calls :=
      performAll_generation (new_sound library options) calls
    have holds := inStep.holds (by omega) (Nat.le_of_lt fewStates)
    refine ⟨holds.continuationOf, fun continuation => ?_, holds.byContinuation_iff inStep.distinct⟩
    refine (holds.stateOf continuation ?_).1
    exact Nat.le_trans (States.length_stateOf_le ..) fewStates

/-- The state that an open quote leaves: it stands for the quote, in words as well, and is refused
once the language is set again. -/
theorem issued_state_stands_quote :
    let calls : List Call := [.setLanguage "quoting", .tagLine ⟨2, 1⟩ "\"a".toList]
    let session := (new .quoting {}).performAll calls
    let quote : Continuation := ⟨⟨"quoting_main"⟩, .span { stop := ['"'], tag := .literal1 }⟩
    let latter := session.performAll [.setLanguage "quoting"]
    (new .quoting {}).Issued calls ⟨2, 2⟩ ∧
      session.states.continuationOf ⟨2, 2⟩ = .ok (some quote) ∧
      latter.tagLine ⟨2, 2⟩ "b".toList = (.error (.stale ⟨2, 2⟩ 3), latter) ∧
      ∃ book, StateBook.InStep book session.states ∧
        book.continuationOf ⟨2, 2⟩ = .ok (some quote) ∧
        book.byContinuation.get? quote = some ⟨2, 2⟩ := by
  intro calls session quote latter
  have issued : (new .quoting {}).Issued calls ⟨2, 2⟩ :=
    ⟨[.setLanguage "quoting"], .tagLine ⟨2, 1⟩ "\"a".toList, [], rfl, by decide +kernel,
      fun _ none => nomatch none⟩
  have stands : session.states.continuationOf ⟨2, 2⟩ = .ok (some quote) := by decide +kernel
  obtain ⟨each, -, inWords⟩ := issued_state_stands .quoting {} calls
  have refused := (each ⟨2, 2⟩ issued).2 [.setLanguage "quoting"] "b".toList
    ⟨_, List.mem_cons_self, rfl⟩
  rw [show (((new .quoting {}).performAll calls).performAll
    [.setLanguage "quoting"]).states.generation = 3 by decide +kernel] at refused
  obtain ⟨⟨book, inStep⟩, alike⟩ := inWords (by decide) (by decide +kernel)
  obtain ⟨answers, -, inverse⟩ := alike book inStep
  have written : book.continuationOf ⟨2, 2⟩ = .ok (some quote) := (answers ⟨2, 2⟩).trans stands
  exact ⟨issued, stands, refused, book, inStep, written, (inverse quote ⟨2, 2⟩).mpr written⟩

end Session

end Highlighter
