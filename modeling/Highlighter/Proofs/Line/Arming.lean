import Highlighter.Proofs.Line.Claims
import Highlighter.Proofs.Line.Dispatching
import Highlighter.Proofs.Line.EndMarkers
import Highlighter.Proofs.Line.Invariants

/-!
# What leaves spans open

Of all that is tried at a place of a line only a rule for spans leaves a span open, when it does not
find the end marker, and then the line ends there.  At the start of a line only the span that is
open there is left open again.
-/

namespace Highlighter.Line

variable {mode : Mode} {line : List Char} {column inside : Nat} {form : SpanForm}

/-- A rule opens a span at a column, with its inside from `inside` on, and finds no end marker. -/
def LeavesSpan (mode : Mode) (line : List Char) (column : Nat) (rule : Rule) (inside : Nat)
    (form : SpanForm) : Prop :=
  ∃ opener anchors width, rule.form = some (.led opener anchors (.span form)) ∧
    openingWidth? mode line column opener anchors = some width ∧ inside = column + width ∧
    findSpanEnd line inside form.stop mode.escape form.flags mode.wordChars = .notFound

/-- What is done to a line that a span is left open on, from `inside` on. -/
def leaveSpan (line : List Char) (form : SpanForm) (column inside : Nat) : List Action :=
  paintSpan form column inside line.length line.length ++ [.arm (.span form)]

theorem LeavesSpan.verdict {rule : Rule} (leaves : LeavesSpan mode line column rule inside form) :
    ruleVerdict mode line column rule = .endsLine (leaveSpan line form column inside) := by
  obtain ⟨opener, anchors, width, shape, opens, rfl, nothing⟩ := leaves
  simp only [ruleVerdict, shape, opens, bodyVerdict, spanVerdict, nothing, leaveSpan]

/-! ## Verdicts -/

/-- Tagging a span leaves nothing open; what is done behind it may. -/
theorem arm_mem_paintSpan {start closing stop : Nat} {other : SpanForm} {actions : List Action}
    (arms : .arm (.span form) ∈ paintSpan other start inside closing stop ++ actions) :
    .arm (.span form) ∈ actions := by
  rcases List.mem_append.mp arms with painted | behind
  · obtain ⟨painting, same⟩ := paintSpan_paints _ _ _ _ _ _ painted
    cases same
  · exact behind

/-- The span that is left open is the one that is tagged. -/
theorem arm_mem_leaveSpan {other : SpanForm}
    (arms : .arm (.span form) ∈ leaveSpan line other column inside) : other = form := by
  have armed := arm_mem_paintSpan arms
  simp only [List.mem_singleton, Action.arm.injEq, Restart.span.injEq] at armed
  exact armed.symm

theorem spanVerdict_arms {other : SpanForm}
    (arms : .arm (.span form) ∈ (spanVerdict mode line column inside other).actions) :
    other = form ∧
      findSpanEnd line inside form.stop mode.escape form.flags mode.wordChars = .notFound := by
  rw [spanVerdict] at arms
  split at arms
  · cases arms
  · have closed := arm_mem_paintSpan arms
    simp at closed
  · rename_i nothing
    obtain rfl := arm_mem_leaveSpan arms
    exact ⟨rfl, nothing⟩

/-- Of all bodies that of a span leaves a span open. -/
theorem bodyVerdict_arms {body : Body}
    (arms : .arm (.span form) ∈ (bodyVerdict mode line column inside body).actions) :
    body = .span form ∧
      findSpanEnd line inside form.stop mode.escape form.flags mode.wordChars = .notFound := by
  cases body with
  | span other =>
    obtain ⟨rfl, nothing⟩ := spanVerdict_arms arms
    exact ⟨rfl, nothing⟩
  | enclosed other =>
    simp only [bodyVerdict, enclosedVerdict] at arms
    split at arms
    · simp [Verdict.actions] at arms
    · split at arms
      · simp [Verdict.actions] at arms
      · obtain ⟨painting, same⟩ := paintSpan_paints _ _ _ _ _ _ arms
        cases same
  | restOfLine tag delegate excludeMatch =>
    simp only [bodyVerdict, restOfLineVerdict, Verdict.actions] at arms
    split at arms <;> simp at arms
  | token tag delegate => simp [bodyVerdict, Verdict.actions] at arms
  | nextWord tag excludeMatch =>
    simp only [bodyVerdict] at arms
    split at arms <;> simp [Verdict.actions] at arms
  | patternBehind tag pattern patternTag excludeMatch =>
    simp only [bodyVerdict] at arms
    split at arms <;> simp [Verdict.actions] at arms

/-- Ranges are tagged without the help of other modes, and nothing else is asked for. -/
def PaintsAlone (actions : List Action) : Prop :=
  ∀ action ∈ actions, ∃ painting, action = .paint painting ∧ painting.delegate = none

theorem paintsAlone_nil : PaintsAlone [] :=
  fun _ member => absurd member List.not_mem_nil

theorem paintsAlone_cons {painting : Painting} {actions : List Action}
    (undelegated : painting.delegate = none) (others : PaintsAlone actions) :
    PaintsAlone (.paint painting :: actions) :=
  List.forall_mem_cons.mpr ⟨⟨painting, rfl, undelegated⟩, others⟩

theorem PaintsAlone.arms_not {actions : List Action} (alone : PaintsAlone actions)
    (restart : Restart) : .arm restart ∉ actions := by
  intro armed
  obtain ⟨painting, same, -⟩ := alone _ armed
  cases same

theorem keywordsVerdict_paintsAlone (mode : Mode) (line : List Char) (column : Nat) :
    PaintsAlone (keywordsVerdict mode line column).actions := by
  unfold keywordsVerdict
  dsimp only
  split
  · exact paintsAlone_nil
  · split
    · exact paintsAlone_nil
    · split
      · exact paintsAlone_cons rfl paintsAlone_nil
      · split
        · exact paintsAlone_cons rfl paintsAlone_nil
        · exact paintsAlone_nil

theorem leoKeywordsVerdict_paintsAlone (mode : Mode) (line : List Char) (column : Nat) :
    PaintsAlone (leoKeywordsVerdict mode line column).actions := by
  unfold leoKeywordsVerdict
  dsimp only
  split
  · exact paintsAlone_nil
  · split
    · exact paintsAlone_nil
    · split
      · exact paintsAlone_cons rfl paintsAlone_nil
      · split
        · exact paintsAlone_cons rfl paintsAlone_nil
        · exact paintsAlone_nil

theorem sectionRefVerdict_paintsAlone (line : List Char) (column : Nat) :
    PaintsAlone (sectionRefVerdict line column).actions := by
  unfold sectionRefVerdict
  split
  · split
    · exact paintsAlone_nil
    · exact paintsAlone_cons rfl (paintsAlone_cons rfl (paintsAlone_cons rfl paintsAlone_nil))
  · exact paintsAlone_nil

theorem urlVerdict_paintsAlone (mode : Mode) (line : List Char) (column : Nat) (nested : Bool) :
    PaintsAlone (directiveVerdict mode line column nested .url).actions := by
  simp only [directiveVerdict]
  split
  · exact paintsAlone_nil
  · exact paintsAlone_cons rfl paintsAlone_nil

theorem ruleVerdict_arms {rule : Rule}
    (arms : .arm (.span form) ∈ (ruleVerdict mode line column rule).actions) :
    ∃ inside, LeavesSpan mode line column rule inside form := by
  unfold ruleVerdict at arms
  split at arms
  · simp [Verdict.actions] at arms
  · exact absurd arms ((keywordsVerdict_paintsAlone mode line column).arms_not _)
  · rename_i opener anchors body shape
    split at arms
    · simp [Verdict.actions] at arms
    · rename_i width opens
      obtain ⟨rfl, nothing⟩ := bodyVerdict_arms arms
      exact ⟨_, opener, anchors, width, shape, opens, rfl, nothing⟩

theorem lineStartVerdict_arms_not (directive : Directive) :
    .arm (.span form) ∉ (lineStartVerdict line directive).actions := by
  cases directive with
  | docPart =>
    simp only [lineStartVerdict, docPartVerdict]
    split <;> simp [Verdict.actions, paintDirective]
  | language =>
    simp only [lineStartVerdict, languageDirective]
    split <;> simp [Verdict.actions, paintDirective]
  | leoKeywords => simp [lineStartVerdict, Verdict.actions]
  | sectionRef => simp [lineStartVerdict, Verdict.actions]
  | url => simp [lineStartVerdict, Verdict.actions]
  | _ =>
    simp only [lineStartVerdict]
    split <;> simp [Verdict.actions, paintDirective]

/-- Directives leave no span open. -/
theorem directiveVerdict_arms_not (nested : Bool) (directive : Directive) :
    .arm (.span form) ∉ (directiveVerdict mode line column nested directive).actions := by
  have atStart : ∀ directive, .arm (.span form) ∉
      (if column = 0 && !nested then lineStartVerdict line directive else .declined).actions := by
    intro directive
    split
    · exact lineStartVerdict_arms_not directive
    · simp [Verdict.actions]
  cases directive with
  | leoKeywords => exact (leoKeywordsVerdict_paintsAlone mode line column).arms_not _
  | sectionRef => exact (sectionRefVerdict_paintsAlone line column).arms_not _
  | url => exact (urlVerdict_paintsAlone mode line column nested).arms_not _
  | _ => exact atStart _

/-- Where a span is left open, the first matcher that finds anything is a rule that leaves it. -/
theorem firstVerdict_arms {matchers : List Matcher}
    (arms : .arm (.span form) ∈ (firstVerdict mode line column matchers).actions) :
    ∃ before rule behind inside, matchers = before ++ .rule rule :: behind ∧
      (∀ other ∈ before, matcherVerdict mode line column false other = .declined) ∧
      LeavesSpan mode line column rule inside form := by
  induction matchers with
  | nil => simp [firstVerdict, Verdict.actions] at arms
  | cons matcher matchers ih =>
    rw [firstVerdict] at arms
    split at arms
    · rename_i declined
      obtain ⟨before, rule, behind, inside, rfl, none, leaves⟩ := ih arms
      refine ⟨matcher :: before, rule, behind, inside, rfl, ?_, leaves⟩
      rintro other (_ | ⟨_, member⟩)
      · exact declined
      · exact none other member
    · cases matcher with
      | directive directive => exact absurd arms (directiveVerdict_arms_not false directive)
      | rule rule =>
        obtain ⟨inside, leaves⟩ := ruleVerdict_arms arms
        exact ⟨[], rule, matchers, inside, rfl, by simp, leaves⟩

theorem firstVerdict_of_leavesSpan {before behind : List Matcher} {rule : Rule}
    (declined : ∀ other ∈ before, matcherVerdict mode line column false other = .declined)
    (leaves : LeavesSpan mode line column rule inside form) :
    firstVerdict mode line column (before ++ .rule rule :: behind) =
      .endsLine (leaveSpan line form column inside) := by
  have verdict : matcherVerdict mode line column false (.rule rule) =
      .endsLine (leaveSpan line form column inside) := leaves.verdict
  rw [firstVerdict_eq behind declined (by rw [verdict]; exact Verdict.noConfusion), verdict]

/-! ## The start of a line -/

/-- What is done at the start of a line. -/
def Resumption.actions : Resumption → List Action
  | .at _ actions => actions
  | .done actions => actions

/-- A span that is open at the start of a line closes at an end marker, or the line is done. -/
theorem resumeSpan_cases (mode : Mode) (line : List Char) (form : SpanForm) :
    (∃ closing, resumeSpan mode line form = .at (closing + form.stop.length)
        (paintSpan form 0 0 closing (closing + form.stop.length) ++ [.close])) ∨
      resumeSpan mode line form = .done (leaveSpan line form 0 0) := by
  rw [resumeSpan]
  split
  · exact .inl ⟨_, rfl⟩
  · exact .inr rfl

/-- At the start of a line the span that is open may be left open, and then the line is done. -/
theorem resume_arms {restart : Restart}
    (arms : .arm (.span form) ∈ (resume mode line restart).actions) :
    restart = .span form ∧ resume mode line restart = .done (leaveSpan line form 0 0) := by
  cases restart with
  | span other =>
    rw [resume] at arms ⊢
    rcases resumeSpan_cases mode line other with ⟨closing, closes⟩ | done
    · rw [closes] at arms
      have closed := arm_mem_paintSpan arms
      simp at closed
    · rw [done] at arms ⊢
      obtain rfl := arm_mem_leaveSpan arms
      exact ⟨rfl, rfl⟩
  | docPart =>
    simp only [resume, resumeDocPart, languageDirective] at arms
    split at arms
    · simp [Resumption.actions, paintDirective] at arms
    · split at arms
      · simp [Resumption.actions, paintDirective] at arms
      · split at arms <;> simp [Resumption.actions, paintDirective] at arms
  | color =>
    simp only [resume, resumeColor] at arms
    split at arms
    · simp [Resumption.actions] at arms
    · split at arms
      · simp [Resumption.actions] at arms
      · split at arms <;> simp [Resumption.actions] at arms
  | noColor =>
    simp only [resume, resumeNoColor] at arms
    split at arms <;> simp [Resumption.actions, paintDirective] at arms
  | _ => simp [resume, Resumption.actions] at arms

/-! ## Places where spans are left open -/

/-- Of the matchers that a mode lists for the character at a column, the first one that finds
anything is a rule that leaves a span open. -/
def LeavesSpanFirst (mode : Mode) (line : List Char) (column : Nat) (rule : Rule)
    (form : SpanForm) : Prop :=
  ∃ c before behind inside, Text.charAt? line column = some c ∧
    mode.matchersAt c = before ++ .rule rule :: behind ∧
    (∀ other ∈ before, matcherVerdict mode line column false other = .declined) ∧
    LeavesSpan mode line column rule inside form

/-- Only a span that may go on to the next line is not found. -/
theorem noLineBreak_of_notFound {stop : List Char} {escape : Option Char} {flags : SpanFlags}
    {words : Alphabet} (onLine : column ≤ line.length)
    (nothing : findSpanEnd line column stop escape flags words = .notFound) :
    flags.noLineBreak = false := by
  have settled : SpanEnd.Settled line column stop escape flags words
      (findSpanEnd line column stop escape flags words) := findSpanEnd_settled onLine
  rw [nothing] at settled
  rcases settled with ⟨place, -, ⟨-, failed⟩ | ⟨-, found⟩⟩ | ⟨-, unended⟩
  · cases failed
  · cases found
  · rw [Guarded.unended] at unended
    split at unended
    · cases unended
    · rename_i goesOn
      exact Bool.not_eq_true _ ▸ goesOn

/-- A span that is left open may go on to the next line. -/
theorem LeavesSpanFirst.noLineBreak (leaves : LeavesSpanFirst mode line column rule form) :
    form.flags.noLineBreak = false := by
  obtain ⟨c, before, behind, inside, present, -, -, leavesSpan⟩ := leaves
  obtain ⟨opener, anchors, width, -, opens, rfl, nothing⟩ := leavesSpan
  exact noLineBreak_of_notFound (opening_onLine (Text.lt_length_of_charAt? present) opens) nothing

theorem LeavesSpanFirst.listed (leaves : LeavesSpanFirst mode line column rule form) :
    ∃ c opener anchors, .rule rule ∈ mode.matchersAt c ∧
      rule.form = some (.led opener anchors (.span form)) := by
  obtain ⟨c, before, behind, inside, -, list, -, opener, anchors, width, shape, -⟩ := leaves
  exact ⟨c, opener, anchors, by simp [list], shape⟩

/-! ## Runs -/

/-- The open spans among some states are all known. -/
def SpansAmong (known : List Continuation) (states : States) : Prop :=
  ∀ id form, ⟨id, .span form⟩ ∈ states.continuations → ⟨id, .span form⟩ ∈ known

namespace Run

variable {known : List Continuation} {run : Run} {options : Options}

/-- A run that would leave no span open, and among whose states there are only known ones. -/
structure Spanless (known : List Continuation) (run : Run) : Prop where
  among : SpansAmong known run.states
  leaves : ∀ id form, run.states.continuationOf run.state ≠ .ok (some ⟨id, .span form⟩)

/-- Leaving something open that is no span makes no other span known. -/
theorem spanless_toState (among : SpansAmong known run.states) {restart : Restart}
    (noSpan : ∀ form, restart ≠ .span form) (suppressed : Bool) :
    Spanless known { run with
      state := (run.states.stateOf ⟨run.mode.ruleset, restart⟩).1
      states := (run.states.stateOf ⟨run.mode.ruleset, restart⟩).2
      suppressed } where
  among := by
    intro id form member
    rcases States.mem_stateOf.mp member with same | before
    · exact absurd (congrArg Continuation.restart same).symm (noSpan form)
    · exact among id form before
  leaves := by
    intro id form stands
    rw [States.continuationOf_stateOf] at stands
    exact noSpan form (congrArg Continuation.restart (Option.some.inj (Except.ok.inj stands)))

theorem spanless_close (among : SpansAmong known run.states) : run.close.Spanless known :=
  spanless_toState among (fun _ => Restart.noConfusion) false

/-- An open span that is closed is tagged and no longer left open. -/
theorem spanless_paint_close (among : SpansAmong known run.states) {actions : List Action}
    (paints : ∀ action ∈ actions, ∃ painting, action = .paint painting) :
    (run.performAll options line (actions ++ [.close])).Spanless known := by
  obtain ⟨canvas, painted⟩ := performAll_paint paints run
  have closes : run.performAll options line (actions ++ [.close]) =
      (run.performAll options line actions).close := List.foldl_append
  rw [closes, painted]
  exact spanless_close among

theorem Spanless.perform (spanless : run.Spanless known) {action : Action}
    (noSpan : ∀ form, action ≠ .arm (.span form)) :
    (run.perform options line action).Spanless known := by
  cases action with
  | paint painting =>
    show (run.paint options line painting).Spanless known
    unfold paint
    split
    · exact spanless
    · exact ⟨spanless.among, spanless.leaves⟩
  | arm restart =>
    exact spanless_toState spanless.among (fun form same => noSpan form (congrArg _ same))
      restart.suppressesColor
  | close => exact spanless_close spanless.among
  | switchLanguage name =>
    show (run.switchLanguage name).Spanless known
    rw [switchLanguage_eq]
    split
    · exact ⟨spanless.among, spanless.leaves⟩
    · split
      · exact ⟨spanless.among, spanless.leaves⟩
      · have closed : (run.entered name).close.Spanless known := spanless_close spanless.among
        exact ⟨closed.among, closed.leaves⟩

theorem Spanless.performAll (spanless : run.Spanless known) {actions : List Action}
    (noSpan : ∀ form, .arm (.span form) ∉ actions) :
    (run.performAll options line actions).Spanless known :=
  performAll_keeps_of_mem (Spanless known)
    (fun _ _ member before => before.perform fun form same => noSpan form (same ▸ member)) spanless

/-- A span that is left open is all that there is to be seen but the canvas. -/
theorem performAll_leaveSpan (options : Options) (line : List Char) (form : SpanForm)
    (column inside : Nat) (run : Run) :
    ∃ canvas, run.performAll options line (leaveSpan line form column inside) =
      arm (.span form) { run with canvas } :=
  performAll_paint_arm (paintSpan_paints form column inside line.length line.length) _ run

/-- Where a rule leaves a span open the line is done. -/
theorem dispatch_of_leavesSpanFirst {rule : Rule}
    (leaves : LeavesSpanFirst run.mode line column rule form) :
    ∃ canvas, dispatch options line column 0 run (line.drop column) =
      arm (.span form) { run.step with canvas } := by
  obtain ⟨c, before, behind, inside, present, list, declined, leavesSpan⟩ := leaves
  obtain ⟨canvas, armed⟩ := run.step.performAll_leaveSpan options line form column inside
  refine ⟨canvas, ?_⟩
  rw [Text.drop_of_charAt? present, dispatch_cons, list,
    firstVerdict_of_leavesSpan declined leavesSpan]
  exact armed

/-- Dispatching comes to a place where no span is open yet and a rule leaves one open. -/
def ComesToSpan (known : List Continuation) (options : Options) (line : List Char)
    (column skip : Nat) (run : Run) (rest : List Char) : Prop :=
  ∃ place reached rule form, Comes options line column skip run rest place reached ∧
    reached.Spanless known ∧ LeavesSpanFirst reached.mode line place rule form

theorem ComesToSpan.imp {skip later first : Nat} {rest behind : List Char} {next : Run}
    (comes : ComesToSpan known options line later first next behind)
    (further : ∀ {place reached}, Comes options line later first next behind place reached →
      Comes options line column skip run rest place reached) :
    ComesToSpan known options line column skip run rest := by
  obtain ⟨place, reached, rule, form, onward, spanless, leaves⟩ := comes
  exact ⟨place, reached, rule, form, further onward, spanless, leaves⟩

/-- Where no span is open none is left open, or a place comes at which a rule leaves one open. -/
theorem Spanless.dispatch {rest : List Char} : ∀ {column skip : Nat} {run : Run},
    run.Spanless known → rest = line.drop column →
    (dispatch options line column skip run rest).Spanless known ∨
      ComesToSpan known options line column skip run rest := by
  induction rest with
  | nil => exact fun spanless _ => .inl spanless
  | cons c rest ih =>
    intro column skip run spanless isRest
    have next : rest = line.drop (column + 1) := (Text.drop_succ isRest.symm).symm
    have stepped : run.step.Spanless known := ⟨spanless.among, spanless.leaves⟩
    cases skip with
    | succ skip => exact (ih spanless next).imp id (·.imp .skip)
    | zero =>
      -- a verdict that asks for an open span ends the line, so only the others go on
      by_cases arms : ∃ form, .arm (.span form) ∈
          (firstVerdict run.mode line column (run.mode.matchersAt c)).actions
      · obtain ⟨form, arms⟩ := arms
        obtain ⟨before, rule, behind, inside, list, declined, leaves⟩ := firstVerdict_arms arms
        have present : Text.charAt? line column = some c := by
          rw [Text.charAt?, ← isRest, List.head?_cons]
        exact .inr ⟨column, run, rule, form, .here, spanless,
          c, before, behind, inside, present, list, declined, leaves⟩
      · have noSpan := not_exists.mp arms
        rw [dispatch_cons]
        cases verdict : firstVerdict run.mode line column (run.mode.matchersAt c) with
        | declined => exact (ih stepped next).imp id (·.imp (.declined verdict))
        | passed width => exact (ih stepped next).imp id (·.imp (.passed verdict))
        | taken width actions =>
          rw [verdict] at noSpan
          exact (ih (stepped.performAll noSpan) next).imp id (·.imp (.taken verdict))
        | endsLine actions =>
          rw [verdict] at noSpan
          exact .inl (stepped.performAll noSpan)

end Run

end Highlighter.Line
