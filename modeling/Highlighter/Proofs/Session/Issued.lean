import Highlighter.Proofs.Session.Lines

/-!
# States that were given out

A session gives states out in answer to calls.  A state that was given out stands for a continuation
for as long as the language is not set again.
-/

namespace Highlighter

namespace Session

/-- The state that the answer to a call gives out, if it gives out one. -/
def answer? (session : Session) : Call → Option StateId
  | .setLanguage name => some (session.setLanguage name).1
  | .initialState enabled => some (session.initialState enabled).1
  | .describe _ => none
  | .tagLine state line => (session.tagLine state line).1.toOption.map LineResult.state
  | .tagLineInto state line report sink =>
    (session.tagLineInto state line report sink).1.toOption.map LineResult.state

/-- A state that the answer to one of some calls gave out, in the generation that they lead to. -/
def Issued (session : Session) (calls : List Call) (state : StateId) : Prop :=
  ∃ earlier call later, calls = earlier ++ call :: later ∧
    (session.performAll earlier).answer? call = some state ∧
    ∀ other ∈ later, other.keepsGeneration

theorem performAll_append (session : Session) (earlier later : List Call) :
    session.performAll (earlier ++ later) = (session.performAll earlier).performAll later :=
  List.foldl_append

theorem performAll_cons (session : Session) (call : Call) (later : List Call) :
    session.performAll (call :: later) = (session.perform call).performAll later := rfl

variable {session : Session} {state : StateId}

/-- A state stands for a continuation when it is given out. -/
theorem answer?_stands (sound : session.Sound) {call : Call}
    (answers : session.answer? call = some state) :
    ∃ found, (session.perform call).states.continuationOf state = .ok (some found) := by
  have ofLine : ∀ given line,
      (session.tagLine given line).1.toOption.map LineResult.state = some state →
      ∃ found, (session.tagLine given line).2.states.continuationOf state = .ok (some found) := by
    intro given line answers
    cases tagged : (session.tagLine given line).1 with
    | error error =>
      rw [tagged] at answers
      cases answers
    | ok result =>
      rw [tagged] at answers
      cases answers
      exact tagLine_stands sound tagged
  cases call with
  | setLanguage name =>
    cases answers
    exact ⟨_, States.continuationOf_stateOf session.states.reset
      (.clear (session.registry.resolve name).1.ruleset)⟩
  | initialState enabled =>
    cases answers
    exact ⟨_, States.continuationOf_stateOf ..⟩
  | describe given => cases answers
  | tagLine given line => exact ofLine given line answers
  | tagLineInto given line report sink =>
    rw [answer?, (tagLineInto_tags ..).1] at answers
    rw [perform, (tagLineInto_tags ..).2]
    exact ofLine given line answers

/-- A state that was given out stands for a continuation in its generation. -/
theorem Issued.stands (sound : session.Sound) {calls : List Call}
    (issued : session.Issued calls state) :
    ∃ found, (session.performAll calls).states.continuationOf state = .ok (some found) := by
  obtain ⟨earlier, call, later, rfl, answers, keep⟩ := issued
  have earlierSound := performAll_sound sound earlier
  obtain ⟨found, stands⟩ := answer?_stands earlierSound answers
  rw [performAll_append, performAll_cons]
  exact ⟨found, (performAll_growsTo (perform_sound earlierSound call)
    keep).states.continuationOf stands⟩

/-- A line is tagged from no state, and from every state that was given out in its generation. -/
theorem tagLine_of_issued (sound : session.Sound) {calls : List Call}
    (valid : state = .none ∨ session.Issued calls state) (line : List Char) :
    ∃ continuation result later,
      (session.performAll calls).states.continuationOf state = .ok continuation ∧
      (session.performAll calls).tagLine state line = (.ok result, later) ∧
      result = resultOf line ((session.performAll calls).runLine state continuation line) := by
  rcases valid with rfl | issued
  · exact ⟨none, _, _, rfl, tagLine_eq rfl line, rfl⟩
  · obtain ⟨found, stands⟩ := issued.stands sound
    exact ⟨some found, _, _, stands, tagLine_eq stands line, rfl⟩

end Session

end Highlighter
