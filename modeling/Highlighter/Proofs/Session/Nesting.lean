import Highlighter.Proofs.Line.Nesting
import Highlighter.Proofs.Session.DocParts
import Highlighter.Proofs.Session.Resuming

/-!
# Tags that nest

In a language without delegates the tags of a line follow each other, but for addresses, which are
inside the tag of the text that they stand in.
-/

namespace Highlighter.Session

variable {session : Session} {state : StateId} {line : List Char} {mode : Mode}
  {continuation : Option Continuation}

/-- A mode is in force at the start of a line, or at a place to which matching comes on it. -/
def Uses (session : Session) (state : StateId) (line : List Char) (mode : Mode) : Prop :=
  (∃ continuation, session.states.continuationOf state = .ok continuation ∧
      (session.startRun state continuation).2.mode = mode) ∨
    ∃ place reached, session.ComesTo state line place reached ∧ reached.mode = mode

/-- On a line that does not start with `@language` no mode is in force but that of its start. -/
theorem Uses.mode_eq (uses : session.Uses state line mode)
    (stands : session.states.continuationOf state = .ok continuation)
    (other : Line.startsWithWord line "@language" = false) :
    (session.startRun state continuation).2.mode = mode := by
  rcases uses with ⟨found, standsFor, inForce⟩ | ⟨place, reached, comes, inForce⟩
  · cases stands.symm.trans standsFor
    exact inForce
  · obtain ⟨found, standsFor, -, first, actions, resumes, onward⟩ := comes
    cases stands.symm.trans standsFor
    generalize session.startRun state continuation = started at resumes onward ⊢
    have keeps : ∀ action ∈ (Line.resume started.2.mode line started.1).actions,
        action.KeepsLanguage := Line.resume_keepsLanguage _ (.inl other)
    rw [resumes] at keeps
    have same : started.2.step.SameLanguage
        (started.2.step.performAll session.options line actions) :=
      Line.Run.performAll_sameLanguage keeps line _
    exact (same.mode.symm.trans (onward.mode_eq other).symm).trans inForce

theorem Accounted.runLine_inRow (accounted : session.Accounted)
    (stands : session.states.continuationOf state = .ok continuation)
    (undelegated : ∀ mode, session.Uses state line mode → mode.Undelegated) :
    ∃ bound, InRow Mark.Nests 0 bound
      (session.runLine state continuation line).canvas.marks := by
  have fresh : (session.startRun state continuation).2.canvas.marks = [] := by
    cases continuation <;> rfl
  simp only [Session.runLine]
  split
  · exact ⟨0, fresh ▸ .nil (Nat.le_refl 0)⟩
  · rename_i notBlank
    refine Line.Run.start_inRow fresh (undelegated _ (.inl ⟨continuation, stands, rfl⟩))
      (accounted.startRun stands).2 fun stop actions resumes place reached onward => ?_
    exact undelegated _ (.inr ⟨place, reached,
      ⟨continuation, stands, notBlank, stop, actions, resumes, onward⟩, rfl⟩)

/-- Whatever the library, the options and the calls that led to a session, take a state that stands
for something, and a line on which no mode is in force that has a rule with a delegate.  Of two
events of the line, the first one ends before the other one starts, or the other one is that of an
address inside, and the first one is not that of an address. -/
theorem tagLine_nests (library : Library) (options : Options) (calls : List Call)
    (state : StateId) (continuation : Option Continuation) (line : List Char)
    (stands : ((new library options).performAll calls).states.continuationOf state =
      .ok continuation)
    (undelegated : ∀ mode,
      ((new library options).performAll calls).Uses state line mode → mode.Undelegated) :
    ∃ result after,
      ((new library options).performAll calls).tagLine state line = (.ok result, after) ∧
      result.events.Pairwise fun event other => event.stop ≤ other.start ∨
        (other.tag = .url ∧ event.tag ≠ .url ∧
          event.start ≤ other.start ∧ other.stop ≤ event.stop) := by
  have accounted := performAll_accounted library options calls
  obtain ⟨bound, row⟩ := accounted.runLine_inRow stands undelegated
  refine ⟨_, _, tagLine_eq stands line, List.pairwise_map.mpr (row.related.imp ?_)⟩
  rintro mark other (precedes | ⟨isUrl, isOther, starts, stops⟩)
  · exact .inl (Text.byteOffset_mono line precedes)
  · exact .inr ⟨isUrl, isOther, Text.byteOffset_mono line starts, Text.byteOffset_mono line stops⟩

set_option maxRecDepth 10000 in
/-- In a documentation part two addresses behind a letter of two bytes are inside of the line, and
the second one follows the first. -/
theorem tagLine_nests_docPart :
    let line := "é http://a.b ftp://c/".toList
    (∀ mode, inPart.Uses ⟨2, 2⟩ line mode → mode.Undelegated) ∧
      ∃ result after, inPart.tagLine ⟨2, 2⟩ line = (.ok result, after) ∧
        result.events = [⟨0, 22, .docPart⟩, ⟨3, 13, .url⟩, ⟨14, 22, .url⟩] ∧
        result.events.Pairwise fun event other => event.stop ≤ other.start ∨
          (other.tag = .url ∧ event.tag ≠ .url ∧
            event.start ≤ other.start ∧ other.stop ≤ event.stop) := by
  intro line
  have undelegated : ∀ mode, inPart.Uses ⟨2, 2⟩ line mode → mode.Undelegated := by
    intro mode uses
    have inForce := uses.mode_eq inPart_stands (by decide)
    rw [← inForce]
    with_unfolding_all decide
  obtain ⟨result, after, tagged, nests⟩ :=
    tagLine_nests .quoting {} partCalls ⟨2, 2⟩ _ line inPart_stands undelegated
  have returned : (inPart.tagLine ⟨2, 2⟩ "é http://a.b ftp://c/".toList).1.map LineResult.events =
      .ok [⟨0, 22, .docPart⟩, ⟨3, 13, .url⟩, ⟨14, 22, .url⟩] := by
    with_unfolding_all rfl
  rw [show inPart.tagLine ⟨2, 2⟩ line = (.ok result, after) from tagged] at returned
  exact ⟨undelegated, result, after, tagged, Except.ok.inj returned, nests⟩

end Highlighter.Session
