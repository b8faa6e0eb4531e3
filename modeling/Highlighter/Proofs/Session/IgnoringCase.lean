import Highlighter.Proofs.Registry.PlainRules
import Highlighter.Proofs.Session.Consulting
import Highlighter.Proofs.Session.Resuming
import Highlighter.Proofs.Text.Boundaries

/-!
# Lines in capitals

In a mode that ignores case a line is tagged like the line in small letters, and leaves the same
state.  This takes that no end marker of the mode has letters: a literal that opens a span is found
in capitals as well, but the end marker only as it is written, so a span that opens and closes in
small letters may run on to the lines below in capitals.
-/

namespace Highlighter

open Unicode (asciiLower)

/-- Remarks that start with a word and end at a marker, and a keyword. -/
def Ruleset.remarks (stop : String) : Ruleset where
  keywords := [("keyword1", ["go"])]
  rules := [
    { spec := .span "rem" stop "comment1" none false {} {} },
    { spec := .keywords }]

/-- A language with nothing but remarks and a keyword. -/
def Library.remarking (stop : String) : Library where
  files := .ofList [("remarking", { rulesets := [("main", .remarks stop)] })]

theorem Ruleset.remarks_plain (stop : String) : (remarks stop).Plain where
  imports := rfl
  ignoreCase := rfl
  digitPattern := rfl
  escape := by simp [remarks]
  chars := by simp [remarks]
  rules := by simp [remarks, RuleSpec.isPlain]

namespace Line

theorem lowered_byteLength (line : List Char) :
    Text.byteLength (lowered line) = Text.byteLength line := by
  induction line with
  | nil => rfl
  | cons c line ih =>
    rw [lowered_cons, Text.byteLength_cons, Text.byteLength_cons, ih, Unicode.utf8Size_asciiLower]

theorem lowered_byteOffset (line : List Char) (column : Nat) :
    Text.byteOffset (lowered line) column = Text.byteOffset line column := by
  rw [Text.byteOffset, lowered_take, lowered_byteLength, Text.byteOffset]

end Line

namespace Session

open Line (lowered)

variable {session : Session} {state : StateId} {mode : Mode} {restart : Restart}

theorem isBlankLine_lowered (line : List Char) :
    isBlankLine (lowered line) = isBlankLine line := by
  have blank : Unicode.isWhitespace ∘ asciiLower = Unicode.isWhitespace :=
    funext Unicode.isWhitespace_asciiLower
  simp [isBlankLine, lowered, List.all_map, blank]

theorem resultOf_lowered (line : List Char) (run : Line.Run) :
    resultOf (lowered line) run = resultOf line run := by
  have same : Mark.toEvent (lowered line) = Mark.toEvent line := by
    funext mark
    simp only [Mark.toEvent, Line.lowered_byteOffset]
  simp only [resultOf, same]

/-- In a plain mode a line without `@` is tagged like the line in small letters. -/
theorem Accounted.tagLine_lowered (accounted : session.Accounted)
    (noUrls : session.options.highlightUrls = false)
    (kept : session.registry.get? mode.ruleset = some mode) (plain : mode.Plain)
    (stands : session.states.continuationOf state = .ok (some ⟨mode.ruleset, restart⟩))
    {line : List Char} (noAt : '@' ∉ line) :
    session.tagLine state (lowered line) = session.tagLine state line := by
  have leaves := (accounted.startRun stands).2
  have plainInForce : (session.startRun state (some ⟨mode.ruleset, restart⟩)).2.mode.Plain := by
    simpa only [Session.startRun, kept, Option.getD_some] using plain
  have runs : session.runLine state (some ⟨mode.ruleset, restart⟩) (lowered line) =
      session.runLine state (some ⟨mode.ruleset, restart⟩) line := by
    simp only [Session.runLine, isBlankLine_lowered]
    split
    · rfl
    · exact Line.Run.start_lowered noUrls plainInForce leaves noAt
  rw [tagLine_eq stands, tagLine_eq stands, runs, resultOf_lowered]

/-- Whatever the library and the calls that led to a session, take a mode that it keeps, made of a
ruleset that ignores case and is plain otherwise, with no letters in its end markers.  From every
state of the mode, lines without `@` that differ in the case of ASCII letters alone are tagged alike
and leave the same state, whichever of the two is tagged first. -/
theorem tagLine_ignores_case (library : Library) (options : Options) (calls : List Call)
    (noUrls : options.highlightUrls = false) (ruleset : Ruleset) (plain : ruleset.Plain)
    (stops : ruleset.StopsAreLetterless) (mode : Mode)
    (made : Registry.MadeOf library false ruleset mode)
    (kept : ((new library options).performAll calls).registry.get? mode.ruleset = some mode)
    (state : StateId) (restart : Restart)
    (stands : ((new library options).performAll calls).states.continuationOf state =
      .ok (some ⟨mode.ruleset, restart⟩))
    (line other : List Char) (same : line.map asciiLower = other.map asciiLower)
    (noAt : '@' ∉ line) :
    let session := (new library options).performAll calls
    ∃ result after, session.tagLine state line = (.ok result, after) ∧
      session.tagLine state other = (.ok result, after) ∧
      after.tagLine state other = (.ok result, after) := by
  intro session
  have accounted : session.Accounted := performAll_accounted library options calls
  have own : session.options = options := performAll_options _ calls
  have noAtToo : '@' ∉ other := by
    rw [← Line.mem_lowered_iff (by decide), lowered, ← same]
    exact (Line.mem_lowered_iff (by decide)).not.mpr noAt
  -- the two lines are the same in small letters
  have alike : session.tagLine state other = session.tagLine state line := by
    have ofLine := accounted.tagLine_lowered (own ▸ noUrls) kept
      (made.plain plain stops) stands noAt
    have ofOther := accounted.tagLine_lowered (own ▸ noUrls) kept
      (made.plain plain stops) stands noAtToo
    rw [← ofLine, ← ofOther, lowered, lowered, same]
  obtain ⟨result, returned⟩ := tagLine_ok_iff.mpr ⟨_, stands⟩
  have afterSound := tagLine_sound accounted.sound state line
  refine ⟨result, (session.tagLine state line).2, Prod.ext returned rfl,
    alike.trans (Prod.ext returned rfl), ?_⟩
  apply tagLine_again accounted.sound afterSound
  · rw [alike]
    exact returned
  · rw [alike]
    exact .refl _

/-- A session in which a remark was left open. -/
def remarked (stop : String) : Session :=
  (new (.remarking stop) { highlightUrls := false }).performAll
    [.setLanguage "remarking", .tagLine ⟨2, 1⟩ "x rem y".toList]

/-- Its mode is kept, and states may stand for continuations of it. -/
theorem remarked_stands (stop : String) (state : StateId) (restart : Restart)
    (evaluated : ((remarked stop).registry.get? ⟨"remarking_main"⟩).map
        (fun mode => (mode.ruleset, mode.isUnknown)) = some (⟨"remarking_main"⟩, false) ∧
      (remarked stop).states.continuationOf state = .ok (some ⟨⟨"remarking_main"⟩, restart⟩)) :
    ∃ mode, Registry.MadeOf (.remarking stop) false (.remarks stop) mode ∧
      (remarked stop).registry.get? mode.ruleset = some mode ∧
      (remarked stop).states.continuationOf state = .ok (some ⟨mode.ruleset, restart⟩) := by
  obtain ⟨keeps, stands⟩ := evaluated
  obtain ⟨mode, made, isOwn, kept⟩ :=
    exists_madeOf_only (.remarking stop) { highlightUrls := false } _ rfl rfl keeps
  exact ⟨mode, made, isOwn ▸ kept, isOwn ▸ stands⟩

/-- A remark is closed, a keyword follows and another remark, in capitals and in small letters. -/
theorem tagLine_ignores_case_remark :
    let result : LineResult :=
      ⟨[⟨0, 2, .comment1⟩, ⟨3, 5, .keyword1⟩, ⟨6, 10, .comment1⟩], ⟨2, 1⟩, none, 7⟩
    ((remarked ";").tagLine ⟨2, 2⟩ "Z; GO Rem; X".toList).1 = .ok result ∧
      ((remarked ";").tagLine ⟨2, 2⟩ "z; Go rEM; x".toList).1 = .ok result := by
  intro result
  obtain ⟨mode, made, kept, stands⟩ := remarked_stands ";" ⟨2, 2⟩
    (.span { stop := [';'], tag := .comment1 }) (by decide +kernel)
  obtain ⟨found, after, ofCapitals, ofSmall, -⟩ := tagLine_ignores_case (.remarking ";")
    { highlightUrls := false } [.setLanguage "remarking", .tagLine ⟨2, 1⟩ "x rem y".toList] rfl _
    (Ruleset.remarks_plain ";") (by decide) mode made kept ⟨2, 2⟩ _ stands
    "Z; GO Rem; X".toList "z; Go rEM; x".toList (by decide) (by decide)
  have capitals : ((remarked ";").tagLine ⟨2, 2⟩ "Z; GO Rem; X".toList).1 = .ok result := by
    decide +kernel
  have same : found = result := by
    rw [show (remarked ";").tagLine ⟨2, 2⟩ "Z; GO Rem; X".toList = (.ok found, after) from
      ofCapitals] at capitals
    exact Except.ok.inj capitals
  exact ⟨capitals, same ▸ congrArg Prod.fst ofSmall⟩

/-- A remark that ends at a word in small letters is not closed in capitals. -/
theorem not_tagLine_ignores_case :
    ¬∀ (library : Library) (options : Options) (calls : List Call),
      options.highlightUrls = false → ∀ ruleset : Ruleset, ruleset.Plain →
      ∀ mode, Registry.MadeOf library false ruleset mode →
      let session := (new library options).performAll calls
      session.registry.get? mode.ruleset = some mode →
      ∀ state restart,
        session.states.continuationOf state = .ok (some ⟨mode.ruleset, restart⟩) →
      ∀ line other : List Char, line.map asciiLower = other.map asciiLower → '@' ∉ line →
      let (first, after) := session.tagLine state line
      (after.tagLine state other).1.toOption.map (fun result => (result.events, result.state)) =
        first.toOption.map fun result => (result.events, result.state) := by
  intro always
  obtain ⟨mode, made, kept, stands⟩ := remarked_stands "end" ⟨2, 1⟩ .clear (by decide +kernel)
  have alike := always (.remarking "end") { highlightUrls := false }
    [.setLanguage "remarking", .tagLine ⟨2, 1⟩ "x rem y".toList] rfl _
    (Ruleset.remarks_plain "end") mode made kept ⟨2, 1⟩ .clear stands
    "rem x end y".toList "REM X END Y".toList (by decide) (by decide)
  have differ :
      ((remarked "end").tagLine ⟨2, 1⟩ "rem x end y".toList).1.toOption.map
          (fun result => (result.events, result.state)) = some ([⟨0, 9, .comment1⟩], ⟨2, 1⟩) ∧
      (((remarked "end").tagLine ⟨2, 1⟩ "rem x end y".toList).2.tagLine ⟨2, 1⟩
          "REM X END Y".toList).1.toOption.map
          (fun result => (result.events, result.state)) = some ([⟨0, 11, .comment1⟩], ⟨2, 2⟩) := by
    decide +kernel
  have same := differ.1.symm.trans (alike.symm.trans differ.2)
  exact absurd same (by decide)

end Session

end Highlighter
