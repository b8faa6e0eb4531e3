import Highlighter.Proofs.Guarded.Lines
import Highlighter.Proofs.Line.Steps
import Highlighter.Proofs.Registry.Depth
import Mathlib.Control.Monad.Basic

/-!
# Tagging a line comes to an end

A line is done after one step and at most one more for each of its characters, and ranges are
delegated inside each other as deep as the options allow and no deeper.  This holds for rulesets
that delegate to themselves or to each other as well, and for rulesets that import each other.
-/

namespace Highlighter

/-- Two rulesets that import each other and delegate brackets to each other and to themselves. -/
def Library.nesting : Library where
  files := .ofList [("nesting", {
    rulesets := [
      ("main", {
        imports := ["nesting::inner"]
        rules := [{ spec := .span "(" ")" "operator" (some "nesting::inner") false {} {} }] }),
      ("inner", {
        imports := ["nesting"]
        rules := [{ spec := .span "[" "]" "markup" (some "nesting") false {} {} },
          { spec := .span "<" ">" "label" (some "nesting::inner") false {} {} }] })] })]

namespace Session

variable {session : Session} {line : List Char}

/-- A line takes at most one step more than it has characters. -/
theorem runLine_steps_le (session : Session) (state : StateId)
    (continuation : Option Continuation) (line : List Char) :
    (session.runLine state continuation line).steps ≤ line.length + 1 := by
  have fresh : (session.startRun state continuation).2.steps = 0 := by
    cases continuation <;> rfl
  unfold runLine
  dsimp only
  split
  · omega
  · have steps := Line.Run.start_steps_le session.options line
      (session.startRun state continuation).1 (session.startRun state continuation).2
    omega

/-- A line of white space takes none. -/
theorem runLine_steps_of_blank (session : Session) (state : StateId)
    (continuation : Option Continuation) (blank : isBlankLine line = true) :
    (session.runLine state continuation line).steps = 0 := by
  unfold runLine
  dsimp only
  rw [if_pos blank]
  cases continuation <;> rfl

/-- Whatever the library, the options and the calls so far: from no state, and from every state that
was given out since the language was set, tagging a line comes to an end.  No loop over the line
goes through more rounds than the line has characters, but for two, and no more ranges are delegated
inside each other than the options allow; more of either makes no difference.  Nor does anything
that stands deeper in a resolution than the library has names to mention. -/
theorem tagLine_terminates (library : Library) (options : Options) (calls : List Call)
    (state : StateId) (line : List Char)
    (valid : state = .none ∨ (new library options).Issued calls state) :
    let session := (new library options).performAll calls
    ∃ result later, session.tagLine state line = (.ok result, later) ∧
      (∀ limits : Guarded.Limits, line.length + 2 ≤ limits.rounds →
        options.maxDelegationDepth ≤ limits.levels →
        Guarded.tagLine? limits session state line = some (.ok result, later)) ∧
      (∀ registry : Registry, registry.library = library →
        registry.ResolvesWithin (library.mentions.length + 1)) ∧
      result.steps ≤ line.length + 1 ∧
      (line ≠ [] → (∀ c ∈ line, Unicode.isWhitespace c) → result.steps = 0) := by
  intro session
  have fits : Guarded.SessionFits session :=
    Guarded.performAll_fits (Guarded.new_fits library options) calls
  have sameOptions : session.options = options := performAll_options _ calls
  obtain ⟨continuation, result, later, -, tagged, same⟩ :=
    tagLine_of_issued (new_sound library options) valid line
  refine ⟨result, later, tagged, ?_, ?_, ?_, ?_⟩
  · intro limits rounds levels
    have suffice : limits.Suffice session.options line := ⟨rounds, sameOptions ▸ levels⟩
    rw [Guarded.tagLine?_eq fits suffice state]
    exact congrArg some tagged
  · intro registry sameLibrary
    exact sameLibrary ▸ registry.resolvesWithin_mentions
  · rw [same]
    exact runLine_steps_le session state continuation line
  · intro characters white
    have blank : isBlankLine line = true := by
      cases line with
      | nil => exact absurd rfl characters
      | cons c line => simpa [isBlankLine] using white
    rw [same]
    exact runLine_steps_of_blank session state continuation blank

/-- Brackets in brackets, delegated two ranges deep: with one level less the line would not be
done. -/
theorem tagLine_terminates_nesting :
    let options : Options := { maxDelegationDepth := 2 }
    let session := (new .nesting options).performAll [.setLanguage "nesting"]
    let line := "([<x>])".toList
    (new .nesting options).Issued [.setLanguage "nesting"] ⟨2, 1⟩ ∧
      (session.tagLine ⟨2, 1⟩ line).1 = .ok ⟨[⟨0, 1, .operator⟩, ⟨1, 2, .markup⟩, ⟨2, 3, .label⟩,
        ⟨3, 4, .label⟩, ⟨4, 5, .label⟩, ⟨5, 6, .markup⟩, ⟨6, 7, .operator⟩], ⟨2, 1⟩, none, 2⟩ ∧
      (Guarded.tagLine? ⟨9, 1⟩ session ⟨2, 1⟩ line).isNone ∧
      ∃ result later, session.tagLine ⟨2, 1⟩ line = (.ok result, later) ∧
        (∀ limits : Guarded.Limits, line.length + 2 ≤ limits.rounds →
          options.maxDelegationDepth ≤ limits.levels →
          Guarded.tagLine? limits session ⟨2, 1⟩ line = some (.ok result, later)) ∧
        (∀ registry : Registry, registry.library = .nesting →
          registry.ResolvesWithin (Library.nesting.mentions.length + 1)) ∧
        result.steps ≤ line.length + 1 ∧
        (line ≠ [] → (∀ c ∈ line, Unicode.isWhitespace c) → result.steps = 0) := by
  have issued : (new .nesting { maxDelegationDepth := 2 }).Issued [.setLanguage "nesting"] ⟨2, 1⟩ :=
    ⟨[], .setLanguage "nesting", [], rfl, by decide +kernel, fun _ none => nomatch none⟩
  exact ⟨issued, by decide +kernel, by decide +kernel,
    tagLine_terminates .nesting { maxDelegationDepth := 2 } [.setLanguage "nesting"] ⟨2, 1⟩
      "([<x>])".toList (.inr issued)⟩

end Session

end Highlighter
