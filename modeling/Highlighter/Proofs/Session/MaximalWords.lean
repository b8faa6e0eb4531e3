import Highlighter.Proofs.Line.MaximalWords
import Highlighter.Proofs.Session.Consulting

/-!
# Tagging words and nothing else

A language of keywords without other rules splits each line into words and tags those that are
keywords or numbers.  Nothing is left open by it and no mode is resolved, so the session is the same
behind the line as before.
-/

namespace Highlighter

/-- Two keywords, one of which is plain text. -/
def Ruleset.terms : Ruleset where
  keywords := [("keyword1", ["go"]), ("null", ["nil"])]
  rules := [{ spec := .keywords }]

/-- A language of these keywords alone. -/
def Library.terminology : Library where
  files := .ofList [("terms", { rulesets := [("main", .terms)] })]

namespace Session

/-- From nothing open, a line that is not white space is marked at its words. -/
theorem tagLine_of_looksUpWords {session : Session} {state : StateId} {mode : Mode}
    (noUrls : session.options.highlightUrls = false)
    (kept : session.registry.get? mode.ruleset = some mode)
    (stands : session.states.continuationOf state = .ok (some (.clear mode.ruleset)))
    {line : List Char} (looksUp : mode.LooksUpWords line) (visible : isBlankLine line = false) :
    ∃ marks steps, Line.MarksFrom mode line 0 marks ∧ session.tagLine state line =
      (.ok { events := marks.map (Mark.toEvent line), state, switched := none, steps },
        session) := by
  let started : Line.Run := {
    canvas := ⟨session.registry, []⟩, states := session.states, mode, state, suppressed := false }
  have starts : session.startRun state (some (.clear mode.ruleset)) = (.clear, started) := by
    simp only [startRun, Continuation.clear, kept, Option.getD_some, Restart.suppressesColor,
      started]
  obtain ⟨marks, steps, marksFrom, run⟩ :=
    Line.Run.start_marksFrom noUrls started looksUp rfl
  refine ⟨marks, steps, marksFrom, ?_⟩
  have runs : session.runLine state (some (.clear mode.ruleset)) line =
      started.withMarks marks steps := by
    simp only [runLine, starts, visible, Bool.false_eq_true, if_false, run]
  rw [tagLine_eq stands, runs]
  rfl

/-- Keywords without other rules split lines into words.  Take any mode that is made of such a
ruleset, without imports, and that has the same alphabet for keywords as for words; let addresses
not be looked for.  From nothing open, any line without `@` and `<` that is not white space has the
events of its words, each under the tag of a keyword or else that of a number if it is one, except
for plain text.  They are in order, and the line leaves the state and the session as they were. -/
theorem tagLine_marks_words (library : Library) (options : Options) (calls : List Call)
    (noUrls : options.highlightUrls = false) (ruleset : Ruleset) (noImports : ruleset.imports = [])
    (rules : ruleset.rules = [{ spec := .keywords }]) (mode : Mode)
    (made : Registry.MadeOf library false ruleset mode)
    (alphabets : ∀ c, mode.keywordChars.contains c = mode.wordChars.contains c)
    (kept : ((new library options).performAll calls).registry.get? mode.ruleset = some mode)
    (state : StateId) (stands : ((new library options).performAll calls).states.continuationOf
      state = .ok (some (.clear mode.ruleset)))
    (line : List Char) (visible : isBlankLine line = false) (noAt : '@' ∉ line)
    (noLess : '<' ∉ line) :
    let session := (new library options).performAll calls
    ∃ (marks : List Mark) (steps : Nat),
      (∀ mark, mark ∈ marks ↔ mode.MarksWord line mark) ∧
      (marks.Pairwise fun first second => first.stop < second.start) ∧
      session.tagLine state line =
        (.ok { events := marks.map (Mark.toEvent line), state, switched := none, steps },
          session) := by
  intro session
  have own : session.options = options := performAll_options _ calls
  have looksUp : mode.LooksUpWords line :=
    made.looksUpWords noImports rules alphabets noAt noLess
  obtain ⟨marks, steps, marksFrom, tagged⟩ :=
    tagLine_of_looksUpWords (own.symm ▸ noUrls) kept stands looksUp visible
  refine ⟨marks, steps, fun mark => ?_, marksFrom.inOrder, tagged⟩
  rw [marksFrom.mem_iff]
  exact and_iff_right (Nat.zero_le _)

/-- A keyword and a number are words that are marked; a longer word and plain text are not. -/
theorem tagLine_marks_words_terms : ∃ mode, Registry.MadeOf .terminology false .terms mode ∧
    ∃ marks : List Mark, (∀ mark, mark ∈ marks ↔ mode.MarksWord "go (42) gone nil".toList mark) ∧
      marks.map (Mark.toEvent "go (42) gone nil".toList) =
        [⟨0, 2, .keyword1⟩, ⟨4, 6, .digit⟩] := by
  let session : Session :=
    (new .terminology { highlightUrls := false }).performAll [.setLanguage "terms"]
  have stands : session.states.continuationOf ⟨2, 1⟩ = .ok (some (.clear ⟨"terms_main"⟩)) := by
    decide +kernel
  have keeps : (session.registry.get? ⟨"terms_main"⟩).map
      (fun mode => (mode.ruleset, mode.isUnknown)) = some (⟨"terms_main"⟩, false) := by
    decide +kernel
  obtain ⟨mode, made, isMain, kept⟩ := exists_madeOf_only .terminology { highlightUrls := false }
    [.setLanguage "terms"] rfl rfl keeps
  have alphabets : mode.keywordChars = mode.wordChars := by
    have same : (session.registry.get? ⟨"terms_main"⟩).all
        (fun mode => mode.keywordChars = mode.wordChars) = true := by decide +kernel
    rw [show session.registry.get? ⟨"terms_main"⟩ = some mode from kept] at same
    exact of_decide_eq_true same
  obtain ⟨marks, steps, marked, -, tagged⟩ := tagLine_marks_words .terminology
    { highlightUrls := false } [.setLanguage "terms"] rfl .terms rfl rfl mode made
    (fun c => by rw [alphabets]) (isMain ▸ kept) ⟨2, 1⟩ (isMain ▸ stands)
    "go (42) gone nil".toList (by decide +kernel) (by decide) (by decide)
  refine ⟨mode, made, marks, marked, ?_⟩
  have computed : (session.tagLine ⟨2, 1⟩ "go (42) gone nil".toList).1 =
      .ok ⟨[⟨0, 2, .keyword1⟩, ⟨4, 6, .digit⟩], ⟨2, 1⟩, none, 10⟩ := by decide +kernel
  have result := (congrArg Prod.fst tagged).symm.trans computed
  exact congrArg LineResult.events (Except.ok.inj result)

end Session

end Highlighter
