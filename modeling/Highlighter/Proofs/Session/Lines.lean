import Highlighter.Proofs.Session.Calls
import Mathlib.Control.Monad.Basic

/-!
# Lines in a row

The lines of a text are tagged one after the other, each from the state that the line before it
leaves.  A session recalls a line if tagging it brings nothing new: from then on the line comes out
the same for as long as the language stays.  A line that was tagged once is recalled, so a line can
be tagged again at any time with the same result.
-/

namespace Highlighter

/-- A language whose quotes run on to the next line until they are closed. -/
def Library.quoting : Library where
  files := .ofList [("quoting", {
    rulesets := [("main", {
      attributes := { escape := "\\" }
      rules := [{ spec := .span "\"" "\"" "literal1" none false {} {} }] })] })]

namespace Session

/-- Tags lines from top to bottom, up to the first one that is refused. -/
def tagLines (session : Session) (state : StateId) :
    (lines : List (List Char)) → Except StateError (List LineResult) × Session
  | [] => (.ok [], session)
  | line :: lines =>
    match session.tagLine state line with
    | (.error error, session) => (.error error, session)
    | (.ok result, session) =>
      match session.tagLines result.state lines with
      | (.error error, session) => (.error error, session)
      | (.ok results, session) => (.ok (result :: results), session)

/-- Tagging a line has a given result, and brings nothing new. -/
def Recalls (session : Session) (state : StateId) (line : List Char) (result : LineResult) : Prop :=
  session.tagLine state line = (.ok result, session)

variable {session later : Session} {state : StateId} {line : List Char} {result : LineResult}

/-- What is recalled is recalled later. -/
theorem Recalls.mono (recalls : session.Recalls state line result) (sound : session.Sound)
    (laterSound : later.Sound) (grows : session.GrowsTo later) :
    later.Recalls state line result := by
  unfold Recalls at recalls
  refine tagLine_again sound laterSound (by rw [recalls]) ?_
  rw [recalls]
  exact grows

/-- A line that was tagged is recalled. -/
theorem recalls_of_tagLine (sound : session.Sound)
    (returned : (session.tagLine state line).1 = .ok result) :
    (session.tagLine state line).2.Recalls state line result :=
  tagLine_again sound (tagLine_sound sound state line) returned (.refl _)

/-- The state that a line leaves stands for something. -/
theorem tagLine_stands (sound : session.Sound)
    (returned : (session.tagLine state line).1 = .ok result) :
    ∃ found, (session.tagLine state line).2.states.continuationOf result.state =
      .ok (some found) := by
  obtain ⟨continuation, stands⟩ := tagLine_ok_iff.mp ⟨result, returned⟩
  rw [tagLine_eq stands] at returned ⊢
  cases returned
  exact (runLine_sound sound stands line).stands

theorem Recalls.stands (recalls : session.Recalls state line result) (sound : session.Sound) :
    ∃ found, session.states.continuationOf result.state = .ok (some found) := by
  unfold Recalls at recalls
  have found := tagLine_stands sound (congrArg Prod.fst recalls)
  rwa [recalls] at found

/-! ## All lines of a text -/

variable {next last : Session} {lines : List (List Char)} {results : List LineResult}

theorem tagLines_cons (tags : session.tagLine state line = (.ok result, next))
    (rest : next.tagLines result.state lines = (.ok results, last)) :
    session.tagLines state (line :: lines) = (.ok (result :: results), last) := by
  simp only [tagLines, tags, rest]

/-- Lines are tagged if the first one is, and the others behind it. -/
theorem tagLines_cons_ok (tagged : session.tagLines state (line :: lines) = (.ok results, last)) :
    ∃ result next rest, session.tagLine state line = (.ok result, next) ∧
      next.tagLines result.state lines = (.ok rest, last) ∧ results = result :: rest := by
  rw [tagLines] at tagged
  split at tagged
  · cases tagged
  · rename_i result next tags
    split at tagged
    · cases tagged
    · rename_i rest other others
      cases tagged
      exact ⟨result, next, rest, tags, others, rfl⟩

theorem tagLines_growsTo (sound : session.Sound)
    (tagged : session.tagLines state lines = (.ok results, last)) :
    last.Sound ∧ session.GrowsTo last := by
  induction lines generalizing session state results with
  | nil =>
    cases tagged
    exact ⟨sound, .refl _⟩
  | cons line lines ih =>
    obtain ⟨result, next, rest, tags, others, -⟩ := tagLines_cons_ok tagged
    have nextSound := tagLine_sound sound state line
    have grows := tagLine_growsTo sound state line
    rw [tags] at nextSound grows
    obtain ⟨lastSound, growsOn⟩ := ih nextSound others
    exact ⟨lastSound, grows.trans growsOn⟩

/-- What came of lines in a row comes of them again later in the same language, and nothing is
new. -/
theorem tagLines_again (sound : session.Sound) (laterSound : later.Sound)
    (tagged : session.tagLines state lines = (.ok results, last)) (grows : last.GrowsTo later) :
    later.tagLines state lines = (.ok results, later) := by
  induction lines generalizing session state results with
  | nil =>
    cases tagged
    rfl
  | cons line lines ih =>
    obtain ⟨result, next, rest, tags, others, rfl⟩ := tagLines_cons_ok tagged
    have nextSound := tagLine_sound sound state line
    rw [tags] at nextSound
    have growsOn := (tagLines_growsTo nextSound others).2.trans grows
    have again : later.tagLine state line = (.ok result, later) := by
      refine tagLine_again sound laterSound (congrArg Prod.fst tags) ?_
      rwa [tags]
    exact tagLines_cons again (ih nextSound others)

/-! ## Lines again -/

/-- Whatever calls led to the session, and whatever calls within the generation came behind a line,
tagging it again gives the same result.  The session knows all that it needs by then: it does not
change. -/
theorem tagLine_repeatable (library : Library) (options : Options) (earlier calls : List Call)
    (state : StateId) (line : List Char) (result : LineResult)
    (returned : (((new library options).performAll earlier).tagLine state line).1 = .ok result)
    (keep : ∀ call ∈ calls, call.keepsGeneration) :
    let later :=
      (((new library options).performAll earlier).tagLine state line).2.performAll calls
    later.tagLine state line = (.ok result, later) := by
  intro later
  have sound := performAll_sound (new_sound library options) earlier
  have taggedSound := tagLine_sound sound state line
  have laterSound : later.Sound := performAll_sound taggedSound calls
  exact tagLine_again sound laterSound returned (performAll_growsTo taggedSound keep)

/-- A quote that is left open leaves the same state again once other lines were tagged behind it. -/
theorem tagLine_repeatable_quote :
    let session := (new .quoting {}).performAll [.setLanguage "quoting"]
    let tagged := session.tagLine ⟨2, 1⟩ "x \"ab".toList
    let result : LineResult := ⟨[⟨2, 5, .literal1⟩], ⟨2, 2⟩, none, 4⟩
    let later := tagged.2.performAll [.tagLine ⟨2, 2⟩ "c\" d".toList, .initialState false]
    tagged.1 = .ok result ∧ later.tagLine ⟨2, 1⟩ "x \"ab".toList = (.ok result, later) := by
  have returned : (((new .quoting {}).performAll [.setLanguage "quoting"]).tagLine ⟨2, 1⟩
      "x \"ab".toList).1 = .ok ⟨[⟨2, 5, .literal1⟩], ⟨2, 2⟩, none, 4⟩ := by
    decide +kernel
  refine ⟨returned, tagLine_repeatable .quoting {} _ _ _ _ _ returned ?_⟩
  simp [Call.keepsGeneration]

end Session

end Highlighter
