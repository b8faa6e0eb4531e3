import Highlighter.Proofs.Guarded.Directives
import Highlighter.Proofs.Line.DelegatedRanges
import Highlighter.Proofs.Line.LineStart
import Highlighter.Proofs.Session.Handles
import Highlighter.Proofs.Session.OpenSpans
import Highlighter.Proofs.Session.Resuming
import Mathlib.Control.Monad.Basic

/-!
# Colouring that is turned off

Colouring is turned off for good, for the rest of the node, or up to a line that starts with
`@color`.  Until then lines are left alone: nothing is tagged, no language is asked for, and the
state stays.
-/

namespace Highlighter

namespace Line

/-! ## Marks stay -/

namespace Canvas

variable {line : List Char} {start limit : Nat} {passes : Prop} {before after : Canvas}

theorem Adds.keeps (adds : Adds line start limit passes before after) :
    before.marks <+: after.marks := by
  obtain ⟨added, marks, -⟩ := adds
  exact ⟨added, marks.symm⟩

end Canvas

namespace Run

variable {options : Options} {line : List Char}

theorem sweepUrls_keeps (line : List Char) (start stop : Nat) (canvas : Canvas) :
    canvas.marks <+: (sweepUrls line start stop canvas).marks := by
  unfold sweepUrls
  generalize Url.findIn line start stop = found
  induction found generalizing canvas with
  | nil => exact List.prefix_refl _
  | cons range found ih =>
    have first := (Canvas.add_adds line range.1 0 range.2 .url canvas).keeps
    exact first.trans (ih (canvas.add line range.1 range.2 .url))

theorem paintCanvas_keeps (options : Options) (line : List Char) (painting : Painting)
    (canvas : Canvas) : canvas.marks <+: (paintCanvas options line painting canvas).marks := by
  have painted := (Canvas.paint_adds (delegate_adds line 0 options.maxDelegationDepth)
    (Nat.le_refl painting.start) canvas).keeps
  unfold paintCanvas
  dsimp only
  split
  · exact painted.trans (sweepUrls_keeps line _ _ _)
  · exact painted

/-- Marks are only ever added. -/
theorem perform_keeps_marks (options : Options) (line : List Char) (run : Run) (action : Action) :
    run.canvas.marks <+: (run.perform options line action).canvas.marks := by
  cases action with
  | paint painting =>
    show run.canvas.marks <+: (run.paint options line painting).canvas.marks
    unfold paint
    split
    · exact List.prefix_refl _
    · exact paintCanvas_keeps options line painting run.canvas
  | arm restart => exact List.prefix_refl _
  | close => exact List.prefix_refl _
  | switchLanguage name =>
    show run.canvas.marks <+: (run.switchLanguage name).canvas.marks
    rw [switchLanguage_eq]
    split
    · exact List.prefix_refl _
    · split <;> exact List.prefix_refl _

/-- Colouring is on, the state that the line would leave says so, and `@color` is tagged first. -/
structure Colored (run : Run) : Prop where
  tells : run.TellsColor
  on : run.suppressed = false
  first : [⟨0, 6, .leoKeyword⟩] <+: run.canvas.marks

theorem Colored.perform {run : Run} (colored : run.Colored) {action : Action}
    (ordinary : action.Ordinary) : (run.perform options line action).Colored where
  tells := colored.tells.perform options line action
  on := perform_unsuppressed ordinary.keepsColor line colored.on
  first := colored.first.trans (perform_keeps_marks options line run action)

/-- So it is once the directive is heeded. -/
theorem colored_of_color (starts : startsWithWord line "@color") {run : Run}
    (unmarked : run.canvas.marks = []) :
    (run.performAll options line [.arm .color, paintDirective 0 6]).Colored := by
  have painted : (run.arm .color).perform options line (paintDirective 0 6) =
      { run.arm .color with
        canvas := (paintCanvas options line ⟨0, 6, .leoKeyword, none, false⟩ run.canvas) } := rfl
  have within : min 6 line.length = 6 := by
    obtain ⟨behind, rfl⟩ := prefix_of_startsWithWord starts
    rw [List.length_append, show "@color".toList.length = 6 by rfl]
    omega
  have marked : [⟨0, 6, .leoKeyword⟩] <+: (paintCanvas options line ⟨0, 6, .leoKeyword, none, false⟩
      run.canvas).marks := by
    have first : (run.canvas.paint line (delegate line options.maxDelegationDepth)
        ⟨0, 6, .leoKeyword, none, false⟩).marks = [⟨0, 6, .leoKeyword⟩] := by
      simp [Canvas.paint, Canvas.add, within, unmarked]
    unfold paintCanvas
    dsimp only
    split
    · rw [← first]
      exact sweepUrls_keeps line _ _ _
    · exact first.symm ▸ List.prefix_refl _
  show ((run.arm .color).perform options line (paintDirective 0 6)).Colored
  rw [painted]
  exact ⟨⟨.color, States.continuationOf_stateOf .., rfl⟩, rfl, marked⟩

end Run

/-- While colouring is off a line is done at its start. -/
theorem resume_off {restart : Restart} (off : restart.suppressesColor) {line : List Char}
    (notOn : restart = .noColor → startsWithWord line "@color" = false) (mode : Mode) :
    resume mode line restart = .done [.arm restart] := by
  cases restart with
  | noColor => simp [resume, resumeNoColor, notOn rfl]
  | noColorNode => rfl
  | killColor => rfl
  | _ => cases off

end Line

namespace Session

open Line (startsWithWord)

variable {session next : Session} {state : StateId} {ruleset : RulesetId} {restart : Restart}
  {line : List Char} {lines : List (List Char)} {result : LineResult}

/-- A line that was left alone. -/
def LeftAlone (state : StateId) (result : LineResult) : Prop :=
  result.state = state ∧ result.events = [] ∧ result.switched = none

/-- A line that turned colouring on: `@color` is tagged first, and colouring is on behind it. -/
def TurnedOn (after : Session) (result : LineResult) : Prop :=
  result.events.head? = some ⟨0, 6, .leoKeyword⟩ ∧
    ∃ ending, after.states.continuationOf result.state = .ok (some ending) ∧
      ending.restart.suppressesColor = false

/-- A line turns colouring on that is off, if `@nocolor` turned it off. -/
def TurnsOn (restart : Restart) (line : List Char) : Prop :=
  restart = .noColor ∧ startsWithWord line "@color"

instance (restart : Restart) (line : List Char) : Decidable (TurnsOn restart line) :=
  inferInstanceAs (Decidable (_ ∧ _))

/-! ## Single lines -/

/-- While colouring is off a line is left alone, and nothing is new. -/
theorem Accounted.tagLine_off (accounted : session.Accounted) (booked : session.states.Booked)
    (stands : session.states.continuationOf state = .ok (some ⟨ruleset, restart⟩))
    (off : restart.suppressesColor) (notOn : ¬TurnsOn restart line) :
    ∃ result, session.tagLine state line = (.ok result, session) ∧ LeftAlone state result := by
  have again : session.states.stateOf ⟨ruleset, restart⟩ = (state, session.states) :=
    States.stateOf_of_continuationOf booked.distinct stands
  obtain ⟨mode, started⟩ : ∃ mode : Mode, session.startRun state (some ⟨ruleset, restart⟩) =
      (restart, ⟨⟨session.registry, []⟩, session.states, mode, state, true, none, 0⟩) :=
    ⟨(session.registry.get? ruleset).getD session.base, by simp only [Session.startRun, off]⟩
  have inForce : mode.ruleset = ruleset := by
    have same := accounted.startRun_ruleset stands
    rwa [started] at same
  rw [tagLine_eq stands]
  simp only [Session.runLine, started]
  split
  · exact ⟨_, rfl, rfl, rfl, rfl⟩
  · have done := Line.resume_off off
      (fun isNoColor => Bool.eq_false_iff.mpr fun starts => notOn ⟨isNoColor, starts⟩) mode
    rw [Line.Run.start_done done]
    simp only [Line.Run.performAll, List.foldl_cons, List.foldl_nil, Line.Run.perform,
      Line.Run.arm, Line.Run.step, inForce, again]
    exact ⟨_, rfl, rfl, rfl, rfl⟩

/-- A line that starts with `@color` behind `@nocolor` turns colouring on. -/
theorem tagLine_on
    (stands : session.states.continuationOf state = .ok (some ⟨ruleset, .noColor⟩))
    (starts : startsWithWord line "@color") :
    ∃ result next, session.tagLine state line = (.ok result, next) ∧ TurnedOn next result := by
  let run := (session.startRun state (some ⟨ruleset, .noColor⟩)).2
  have resumes : Line.resume run.mode line .noColor =
      .at 6 [.arm .color, Line.paintDirective 0 6] := by
    simp only [Line.resume, Line.resumeNoColor, starts, if_true]
    rfl
  have ran : session.runLine state (some ⟨ruleset, .noColor⟩) line =
      Line.Run.dispatch session.options line 6 0
        (run.step.performAll session.options line [.arm .color, Line.paintDirective 0 6])
        (line.drop 6) := by
    have notBlank : ¬isBlankLine line := by
      simp [isBlankLine, Line.not_white_of_startsWithWord starts (by rfl)]
    simp only [runLine, if_neg notBlank]
    exact Line.Run.start_at resumes
  have colored : (session.runLine state (some ⟨ruleset, .noColor⟩) line).Colored := by
    rw [ran]
    exact Line.Run.dispatch_keeps_behind Line.Run.Colored
      (fun _ colored => ⟨colored.tells, colored.on, colored.first⟩)
      (fun _ _ ordinary colored => colored.perform ordinary) _ 0 (by decide)
      (Line.Run.colored_of_color starts rfl)
  refine ⟨_, _, tagLine_eq stands line, ?_, ?_⟩
  · obtain ⟨others, marks⟩ := colored.first
    have offset : Text.byteOffset line 6 = 6 := Guarded.byteOffset_word starts
    rw [resultOf, ← marks, List.map_append, List.map_singleton, List.singleton_append,
      List.head?_cons, Mark.toEvent, offset]
    rfl
  · obtain ⟨restart, leaves, same⟩ := colored.tells
    exact ⟨_, leaves, same.symm.trans colored.on⟩

/-! ## Lines in a row -/

/-- From a state that stands for something all lines are tagged. -/
theorem tagLines_of_stands (sound : session.Sound) {continuation : Option Continuation}
    (stands : session.states.continuationOf state = .ok continuation) (lines : List (List Char)) :
    ∃ results after, session.tagLines state lines = (.ok results, after) ∧
      results.length = lines.length := by
  induction lines generalizing session state continuation with
  | nil => exact ⟨[], session, rfl, rfl⟩
  | cons line lines ih =>
    have tagged := tagLine_eq stands line
    obtain ⟨found, leaves⟩ := tagLine_stands sound (congrArg Prod.fst tagged)
    have behind := tagLine_sound sound state line
    rw [tagged] at leaves behind
    obtain ⟨results, after, rest, same⟩ := ih behind leaves
    exact ⟨_ :: results, after, tagLines_cons tagged rest, congrArg (· + 1) same⟩

/-- What becomes of a line in a row with colouring off at first, if none before it turned it on. -/
def Fate (state : StateId) (restart : Restart) (after : Session) (line : List Char)
    (result : LineResult) : Prop :=
  (¬TurnsOn restart line → LeftAlone state result) ∧ (TurnsOn restart line → TurnedOn after result)

theorem Accounted.tagLines_off (accounted : session.Accounted) (booked : session.states.Booked)
    (stands : session.states.continuationOf state = .ok (some ⟨ruleset, restart⟩))
    (off : restart.suppressesColor) (lines : List (List Char)) :
    ∃ results after, session.tagLines state lines = (.ok results, after) ∧
      results.length = lines.length ∧
      ∀ index line result, lines[index]? = some line → results[index]? = some result →
        (∀ earlier ∈ lines.take index, ¬TurnsOn restart earlier) →
        Fate state restart after line result := by
  induction lines with
  | nil => exact ⟨[], session, rfl, rfl, fun _ _ _ none => nomatch none⟩
  | cons line lines ih =>
    by_cases turnsOn : TurnsOn restart line
    · -- nothing is said of the lines behind this one
      obtain ⟨rfl, starts⟩ := id turnsOn
      obtain ⟨result, next, tagged, events, ending, leaves, on⟩ := tagLine_on stands starts
      have behind := tagLine_sound accounted.sound state line
      rw [tagged] at behind
      obtain ⟨results, after, rest, same⟩ := tagLines_of_stands behind leaves lines
      have grows := (tagLines_growsTo behind rest).2
      refine ⟨result :: results, after, tagLines_cons tagged rest, congrArg (· + 1) same, ?_⟩
      rintro (_ | index) other found here there before
      · cases here
        cases there
        exact ⟨fun not => absurd turnsOn not,
          fun _ => ⟨events, ending, grows.states.continuationOf leaves, on⟩⟩
      · exact absurd turnsOn (before line (by simp))
    · obtain ⟨result, tagged, leftAlone⟩ := accounted.tagLine_off booked stands off turnsOn
      obtain ⟨results, after, rest, same, fates⟩ := ih
      rw [← leftAlone.1] at rest
      refine ⟨result :: results, after, tagLines_cons tagged rest, congrArg (· + 1) same, ?_⟩
      rintro (_ | index) other found here there before
      · cases here
        cases there
        exact ⟨fun _ => leftAlone, fun on => absurd on turnsOn⟩
      · exact fates index other found here there fun earlier member =>
          before earlier (by simp [member])

/-- Whatever comes to a character of a line has colouring on. -/
theorem ComesTo.unsuppressed {column : Nat} {reached : Line.Run}
    (comes : session.ComesTo state line column reached) : reached.suppressed = false := by
  obtain ⟨continuation, -, -, first, actions, resumes, onward⟩ := comes
  obtain ⟨keep, on⟩ := Line.resume_keepsColor resumes
  have started : (session.startRun state continuation).2.suppressed =
      (session.startRun state continuation).1.suppressesColor := by
    cases continuation <;> rfl
  refine onward.unsuppressed (Line.Run.performAll_unsuppressed keep ?_)
  cases off : (session.startRun state continuation).1.suppressesColor with
  | true => exact .inr (on off)
  | false => exact .inl (started.trans off)

/-- Whatever the library, the options and the calls that led to a session: from a state with
colouring off lines in a row are tagged, and each one up to the first that turns colouring on is
left alone.  That one tags `@color` first, and colouring is on behind it.  Colouring that is off for
the rest of the node or for good is never turned on.  And no line comes to a character, at which
matchers would be tried, with colouring off. -/
theorem tagLines_coloring_off (library : Library) (options : Options) (calls : List Call) :
    let session := (new library options).performAll calls
    (∀ (state : StateId) (ruleset : RulesetId) (restart : Restart) (lines : List (List Char)),
      session.states.continuationOf state = .ok (some ⟨ruleset, restart⟩) →
      restart.suppressesColor →
      ∃ results after, session.tagLines state lines = (.ok results, after) ∧
        results.length = lines.length ∧
        ∀ index line result, lines[index]? = some line → results[index]? = some result →
          (∀ earlier ∈ lines.take index, ¬TurnsOn restart earlier) →
          Fate state restart after line result) ∧
    ∀ (state : StateId) (line : List Char) (column : Nat) (reached : Line.Run),
      session.ComesTo state line column reached → reached.suppressed = false := by
  intro session
  have accounted : session.Accounted := performAll_accounted library options calls
  have booked : session.states.Booked := performAll_booked (new_booked library options) calls
  constructor
  · exact fun state ruleset restart lines stands off =>
      accounted.tagLines_off booked stands off lines
  · exact fun state line column reached comes => comes.unsuppressed

/-- Behind `@nocolor` a quote and a blank line are left alone, and `@color` is tagged. -/
theorem tagLines_coloring_off_quote :
    let session := (new .quoting {}).performAll [.setLanguage "quoting", .initialState false]
    let lines := ["\"a\"".toList, " ".toList, "@color \"b\"".toList, "\"c\"".toList]
    (∃ results after, session.tagLines ⟨2, 2⟩ lines = (.ok results, after) ∧
      results.map LineResult.events =
        [[], [], [⟨0, 6, .leoKeyword⟩, ⟨7, 10, .literal1⟩], [⟨0, 3, .literal1⟩]] ∧
      (∀ result, results[1]? = some result → LeftAlone ⟨2, 2⟩ result) ∧
      ∀ result, results[2]? = some result → TurnedOn after result) ∧
    ∃ reached, session.ComesTo ⟨2, 1⟩ ['a'] 0 reached ∧ reached.suppressed = false := by
  intro session lines
  obtain ⟨rows, dispatched⟩ :=
    tagLines_coloring_off .quoting {} [.setLanguage "quoting", .initialState false]
  constructor
  · obtain ⟨results, after, tagged, -, fates⟩ := rows ⟨2, 2⟩ ⟨"quoting_main"⟩ .noColor lines
      (by decide +kernel) (by decide)
    have events : (session.tagLines ⟨2, 2⟩ lines).1.toOption.map (·.map LineResult.events) =
        some [[], [], [⟨0, 6, .leoKeyword⟩, ⟨7, 10, .literal1⟩], [⟨0, 3, .literal1⟩]] := by
      decide +kernel
    rw [show session.tagLines ⟨2, 2⟩ lines = (.ok results, after) from tagged] at events
    refine ⟨results, after, tagged, Option.some.inj events, ?_, ?_⟩
    · intro result there
      exact (fates 1 _ result rfl there (by decide +kernel)).1 (by decide +kernel)
    · intro result there
      exact (fates 2 _ result rfl there (by decide +kernel)).2 (by decide +kernel)
  · have comes : session.ComesTo ⟨2, 1⟩ ['a'] 0 _ :=
      comesTo_first (show session.states.continuationOf ⟨2, 1⟩ =
        .ok (some (.clear ⟨"quoting_main"⟩)) by decide +kernel) rfl (by decide)
    exact ⟨_, comes, dispatched ⟨2, 1⟩ ['a'] 0 _ comes⟩

end Session

end Highlighter
