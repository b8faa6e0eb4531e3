import Highlighter.Proofs.Line.RangeClaims
import Highlighter.Proofs.Session.Switching

/-!
# A delegate and a line of its own

A text that is delegated to a mode gets the marks of its matches, and a filler between them.  A line
of the mode with the same text gets the marks of its matches too.  The matches are the same exactly
if there is nothing to be found where the line passes a word over: a word that is no keyword is done
with on the line, but in the delegated range the matchers behind the look-up are tried, and then all
of them at each character inside the word.
-/

namespace Highlighter

/-- Away from `@`, what has no delegate stands alone. -/
def AloneElsewhere (c : Char) (matcher : Matcher) : Prop :=
  c ≠ '@' → matcher.Undelegated → matcher.StandsAlone

theorem aloneElsewhere_ofMatchers : OfMatchers AloneElsewhere where
  rule := fun _ _ _ _ undelegated => undelegated
  atSign := fun _ _ away => absurd rfl away
  sectionRef := fun _ _ => .inl rfl
  url := fun _ _ _ _ => .inr rfl

/-- A mode without delegates does all by itself on a line without `@`. -/
theorem Mode.Undelegated.standsAlone {mode : Mode} (undelegated : mode.Undelegated)
    (elsewhere : mode.Consists AloneElsewhere) {line : List Char} (noAt : '@' ∉ line) :
    mode.StandsAlone line := by
  intro c member matcher listed
  have away : c ≠ '@' := by
    rintro rfl
    exact noAt member
  exact elsewhere.matchersAt matcher listed away (undelegated.matchersAt matcher listed)

/-- A language that hands one word to another language, in which it is looked up as a whole and has
an operator in it. -/
def Library.handing : Library where
  files := .ofList [("t", {
    rulesets := [
      ("main", { rules := [{ spec := .seq "ab" "markup" (some "t::inner") {} }] }),
      ("inner", { rules := [{ spec := .seq "b" "operator" none {} }, { spec := .keywords }] })] })]

namespace Session

variable {session : Session} {state : StateId} {line : List Char} {ruleset : RulesetId}

/-- With nothing open, a line comes where its dispatch comes from the first column. -/
theorem comesTo_clear_iff
    (stands : session.states.continuationOf state = .ok (some (.clear ruleset)))
    (visible : isBlankLine line = false) {place : Nat} {reached : Line.Run} :
    session.ComesTo state line place reached ↔
      Line.Run.Comes session.options line 0 0
        (session.startRun state (some (.clear ruleset))).2.step line place reached := by
  constructor
  · rintro ⟨continuation, found, -, first, actions, resumes, onward⟩
    obtain rfl := Except.ok.inj (stands.symm.trans found)
    cases resumes
    exact onward
  · exact fun onward => ⟨_, stands, by simp [visible], 0, [], rfl, onward⟩

theorem runLine_clear (session : Session) (state : StateId) (ruleset : RulesetId)
    (visible : isBlankLine line = false) :
    session.runLine state (some (.clear ruleset)) line =
      Line.Run.dispatch session.options line 0 0
        (session.startRun state (some (.clear ruleset))).2.step line := by
  simp only [runLine, visible]
  rfl

/-- Whatever the library, the options and the calls that led to a session, take a mode that it keeps
and whose rules have no delegates, and a text without `@` that is not blank, with addresses left
alone.  Delegated to the mode, the text gets the marks of some matches with a filler between them.
As a line of the mode that starts with nothing open, it gets the marks of its own matches.  The two
have the same matches exactly if, wherever the line comes and passes a word over, there is nothing
to be found by the matchers that are left and by those at the characters inside the word. -/
theorem delegate_claims_iff (library : Library) (options : Options) (calls : List Call)
    (noUrls : options.highlightUrls = false) (deep : 0 < options.maxDelegationDepth) (mode : Mode)
    (kept : ((new library options).performAll calls).registry.get? mode.ruleset = some mode)
    (undelegated : mode.Undelegated) (name : String) (fallback : Tag) (canvas : Line.Canvas)
    (resolves : (canvas.registry.resolve name).1 = mode) (state : StateId)
    (stands : ((new library options).performAll calls).states.continuationOf state =
      .ok (some (.clear mode.ruleset)))
    (line : List Char) (noAt : '@' ∉ line) (visible : isBlankLine line = false) :
    let session := (new library options).performAll calls
    let ranged := Line.rangeClaims mode line
    let own := Line.ownClaims mode line
    (Line.delegate line options.maxDelegationDepth name 0 line.length fallback canvas).marks =
        canvas.marks ++ Line.filledMarks line (mode.defaultTag.getD fallback) 0 ranged ∧
      (∃ result later, session.tagLine state line = (.ok result, later) ∧
        result.events = (own.flatMap (Line.Claim.marks line)).map (Mark.toEvent line)) ∧
      (ranged = own ↔ ∀ place reached, session.ComesTo state line place reached →
        Line.NothingPassed mode line place) := by
  intro session ranged own
  have ofSession : session.options = options := performAll_options _ calls
  have alone : mode.StandsAlone line :=
    undelegated.standsAlone
      (consists_of_holds aloneElsewhere_ofMatchers library options calls (.inl kept)) noAt
  have inForce : (session.startRun state (some (.clear mode.ruleset))).2.mode = mode := by
    simp [session, Session.startRun, Continuation.clear, kept]
  refine ⟨?_, ⟨_, _, tagLine_eq stands line, ?_⟩, ?_⟩
  · obtain ⟨depth, same⟩ := Nat.exists_eq_add_of_lt deep
    rw [same, Nat.zero_add]
    exact Line.delegate_marks alone depth resolves fallback
  · have noUrlsInSession : session.options.highlightUrls = false := ofSession ▸ noUrls
    have marks := Line.Run.dispatch_marks noUrlsInSession alone line 0 0
      (show (session.startRun state (some (.clear mode.ruleset))).2.step.mode = mode from inForce)
      rfl rfl
    rw [← runLine_clear session state mode.ruleset visible] at marks
    exact congrArg (List.map (Mark.toEvent line)) marks
  · have same : ranged = own ↔ ∀ place reached, Line.Run.Comes session.options line 0 0
        (session.startRun state (some (.clear mode.ruleset))).2.step line place reached →
        Line.NothingPassed mode line place :=
      Line.Run.claims_eq_iff alone line 0 0 inForce rfl
    refine same.trans (forall₂_congr fun place reached => imp_congr_left ?_)
    exact (comesTo_clear_iff stands visible).symm

/-- A session in the inner language. -/
def handed : Session :=
  (new .handing { highlightUrls := false }).performAll [.setLanguage "t::inner"]

/-- What its mode is, and what it does in it on two lines, also where they are delegated. -/
theorem handed_evaluated :
    (handed.registry.get? ⟨"t_inner"⟩).map (fun mode =>
        (mode.ruleset, mode.isUnknown, mode.defaultTag, decide mode.Undelegated,
          decide (Line.rangeClaims mode "b a".toList = Line.ownClaims mode "b a".toList))) =
      some (⟨"t_inner"⟩, false, none, true, true) ∧
    (ModeName.ofText handed.registry.library "t::inner").id = ⟨"t_inner"⟩ ∧
    handed.states.continuationOf ⟨2, 1⟩ = .ok (some (.clear ⟨"t_inner"⟩)) ∧
    (Line.delegate "b a".toList 16 "t::inner" 0 3 .markup ⟨handed.registry, []⟩).marks =
      [⟨0, 1, .operator⟩, ⟨1, 3, .markup⟩] ∧
    (handed.tagLine ⟨2, 1⟩ "b a".toList).1.toOption.map LineResult.events =
      some [⟨0, 1, .operator⟩] ∧
    (Line.delegate "ab".toList 16 "t::inner" 0 2 .null ⟨handed.registry, []⟩).marks =
      [⟨1, 2, .operator⟩] ∧
    (handed.tagLine ⟨2, 1⟩ "ab".toList).1.toOption.map LineResult.events = some [] := by
  decide +kernel

/-- Its mode has no delegates, and nothing is open in it at first. -/
theorem handed_kept : ∃ mode, handed.registry.get? mode.ruleset = some mode ∧
    mode.isUnknown = false ∧ mode.defaultTag = none ∧ mode.Undelegated ∧
    (handed.registry.resolve "t::inner").1 = mode ∧
    handed.states.continuationOf ⟨2, 1⟩ = .ok (some (.clear mode.ruleset)) ∧
    Line.rangeClaims mode "b a".toList = Line.ownClaims mode "b a".toList := by
  obtain ⟨evaluated, named, stands, -⟩ := handed_evaluated
  obtain ⟨mode, kept, same⟩ := Option.map_eq_some_iff.mp evaluated
  simp only [Prod.mk.injEq, decide_eq_true_eq] at same
  obtain ⟨isInner, known, noDefault, undelegated, alike⟩ := same
  have resolves := Registry.resolve_of_kept (named ▸ kept)
  exact ⟨mode, isInner ▸ kept, known, noDefault, undelegated, congrArg Prod.fst resolves,
    isInner ▸ stands, alike⟩

/-- An operator and a word that is no keyword: what is between the matches is all that the
delegated range has beside the line. -/
theorem delegate_claims_iff_word :
    let line := "b a".toList
    (Line.delegate line 16 "t::inner" 0 3 .markup ⟨handed.registry, []⟩).marks =
        [⟨0, 1, .operator⟩, ⟨1, 3, .markup⟩] ∧
      (handed.tagLine ⟨2, 1⟩ line).1.toOption.map LineResult.events = some [⟨0, 1, .operator⟩] ∧
      ∃ mode, Line.filledMarks line .markup 0 (Line.ownClaims mode line) =
          [⟨0, 1, .operator⟩, ⟨1, 3, .markup⟩] ∧
        ∀ place reached, handed.ComesTo ⟨2, 1⟩ line place reached →
          Line.NothingPassed mode line place := by
  intro line
  obtain ⟨mode, kept, -, noDefault, undelegated, resolves, stands, alike⟩ := handed_kept
  obtain ⟨ranged, -, same⟩ := delegate_claims_iff .handing { highlightUrls := false }
    [.setLanguage "t::inner"] rfl (by decide) mode kept undelegated "t::inner" .markup
    ⟨handed.registry, []⟩ resolves ⟨2, 1⟩ stands line (by decide) (by decide)
  obtain ⟨-, -, -, marks, events, -⟩ := handed_evaluated
  refine ⟨marks, events, mode, ?_, same.mp alike⟩
  rw [noDefault] at ranged
  rw [← alike, ← marks]
  exact ranged.symm

/-- An operator inside a word that is no keyword is found in the delegated range alone. -/
theorem not_delegate_tags_like_line :
    ¬∀ (library : Library) (options : Options) (calls : List Call),
      options.highlightUrls = false → 0 < options.maxDelegationDepth →
      let session := (new library options).performAll calls
      ∀ mode, session.registry.get? mode.ruleset = some mode → mode.isUnknown = false →
      mode.Undelegated → ∀ name, (session.registry.resolve name).1 = mode →
      ∀ state, session.states.continuationOf state = .ok (some (.clear mode.ruleset)) →
      ∀ line : List Char, '@' ∉ line → isBlankLine line = false → ∀ fallback,
      ∃ claims : List Line.Claim,
        (Line.delegate line options.maxDelegationDepth name 0 line.length fallback
          ⟨session.registry, []⟩).marks =
            Line.filledMarks line (mode.defaultTag.getD fallback) 0 claims ∧
        (session.tagLine state line).1.toOption.map LineResult.events =
          some ((claims.flatMap (Line.Claim.marks line)).map (Mark.toEvent line)) := by
  intro always
  obtain ⟨mode, kept, known, noDefault, undelegated, resolves, stands, -⟩ := handed_kept
  -- plain text for a filler leaves the marks of the matches alone
  obtain ⟨claims, ranged, own⟩ := always .handing { highlightUrls := false }
    [.setLanguage "t::inner"] rfl (by decide) mode kept known undelegated "t::inner" resolves
    ⟨2, 1⟩ stands "ab".toList (by decide) (by decide) .null
  rw [noDefault, Option.getD_none, Line.filledMarks_null] at ranged
  rw [← ranged] at own
  obtain ⟨-, -, -, -, -, marks, events⟩ := handed_evaluated
  have alike := own.trans
    (congrArg (fun marks => some (marks.map (Mark.toEvent "ab".toList))) marks)
  cases events.symm.trans alike

/-- So it is where the outer language hands the word on. -/
example : (((new .handing { highlightUrls := false }).setLanguage "t").2.tagLine ⟨2, 1⟩
    "ab".toList).1 = .ok ⟨[⟨0, 1, .markup⟩, ⟨1, 2, .operator⟩], ⟨2, 1⟩, none, 2⟩ := by
  decide +kernel

end Session

end Highlighter
