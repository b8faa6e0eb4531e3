import Highlighter.Proofs.Line.Dispatching
import Highlighter.Proofs.Line.Invariants
import Highlighter.Proofs.Line.Leaving
import Highlighter.Proofs.Line.LocalActions

/-!
# What only happens at the start of a line

Directives that turn colouring on or off, open a documentation part or change the language only
count at the first column.  Behind it verdicts ask for what rules ask for: that ranges are tagged,
and that spans are left open or closed.  So behind the first column the mode in force stays, and
colouring stays on.  Where colouring is turned off, the line is done: no character is dispatched on
with colouring off.
-/

namespace Highlighter.Line

/-- What rules ask for: that ranges are tagged, and that spans are left open or closed. -/
def Action.Ordinary : Action → Prop
  | .paint _ | .close | .arm (.span _) => True
  | _ => False

/-- An action that does not turn colouring off. -/
def Action.KeepsColor : Action → Prop
  | .arm restart => restart.suppressesColor = false
  | _ => True

theorem Action.Ordinary.keepsColor {action : Action} (ordinary : action.Ordinary) :
    action.KeepsColor := by
  cases action with
  | arm restart => cases restart <;> first | exact rfl | cases ordinary
  | _ => exact trivial

variable {mode : Mode} {line : List Char} {column inside : Nat}

/-! ## What verdicts ask for -/

/-- Nothing but ordinary actions is asked for. -/
def AllOrdinary (actions : List Action) : Prop :=
  ∀ action ∈ actions, action.Ordinary

theorem allOrdinary_nil : AllOrdinary [] :=
  fun _ member => absurd member List.not_mem_nil

/-- What rules ask for is ordinary. -/
theorem AllOfRule.ordinary {own : Prop} {actions : List Action} (ofRule : AllOfRule own actions) :
    AllOrdinary actions := by
  intro action asked
  have itself := ofRule action asked
  cases action with
  | paint painting => exact trivial
  | arm restart => cases restart <;> exact itself
  | close => exact trivial
  | switchLanguage name => cases itself

theorem PaintsAlone.ordinary {actions : List Action} (alone : PaintsAlone actions) :
    AllOrdinary actions :=
  (alone.ofRule True).ordinary

/-- What a directive asks for is ordinary, or it is what the directive asks for at the start of a
line. -/
theorem directiveVerdict_cases (mode : Mode) (line : List Char) (column : Nat)
    (directive : Directive) :
    AllOrdinary (directiveVerdict mode line column false directive).actions ∨
      column = 0 ∧
        directiveVerdict mode line column false directive = lineStartVerdict line directive := by
  have atStart : ∀ directive,
      AllOrdinary
        (if column = 0 && !false then lineStartVerdict line directive else .declined).actions ∨
      column = 0 ∧ (if column = 0 && !false then lineStartVerdict line directive
        else Verdict.declined) = lineStartVerdict line directive := by
    intro directive
    by_cases first : column = 0
    · exact .inr ⟨first, by simp [first]⟩
    · exact .inl (by simp [first, AllOrdinary, Verdict.actions])
  cases directive with
  | leoKeywords => exact .inl (leoKeywordsVerdict_paintsAlone mode line column).ordinary
  | sectionRef => exact .inl (sectionRefVerdict_paintsAlone line column).ordinary
  | url => exact .inl (urlVerdict_paintsAlone mode line column false).ordinary
  | _ => exact atStart _

/-- The first verdict is that of one of the matchers, if any of them finds something. -/
theorem firstVerdict_cases (mode : Mode) (line : List Char) (column : Nat)
    (matchers : List Matcher) :
    firstVerdict mode line column matchers = .declined ∨
      ∃ matcher ∈ matchers, firstVerdict mode line column matchers =
        matcherVerdict mode line column false matcher := by
  induction matchers with
  | nil => exact .inl rfl
  | cons matcher matchers ih =>
    rw [firstVerdict]
    split
    · rcases ih with none | ⟨other, member, same⟩
      · exact .inl none
      · exact .inr ⟨other, List.mem_cons_of_mem _ member, same⟩
    · exact .inr ⟨matcher, List.mem_cons_self, rfl⟩

/-- What is asked for at a character is ordinary, or it is what a directive asks for at the start of
the line. -/
theorem firstVerdict_ordinary_or (mode : Mode) (line : List Char) (column : Nat)
    (matchers : List Matcher) :
    AllOrdinary (firstVerdict mode line column matchers).actions ∨
      column = 0 ∧ ∃ directive,
        firstVerdict mode line column matchers = lineStartVerdict line directive := by
  rcases firstVerdict_cases mode line column matchers with same | ⟨matcher, -, same⟩
  · rw [same]
    exact .inl allOrdinary_nil
  · rw [same]
    cases matcher with
    | rule rule => exact .inl (ruleVerdict_ofRule mode line column rule).ordinary
    | directive directive =>
      exact (directiveVerdict_cases mode line column directive).imp id fun ⟨first, start⟩ =>
        ⟨first, directive, start⟩

/-- Behind the first column all is ordinary. -/
theorem firstVerdict_ordinary (behind : 1 ≤ column) (matchers : List Matcher) :
    AllOrdinary (firstVerdict mode line column matchers).actions :=
  (firstVerdict_ordinary_or mode line column matchers).resolve_right fun first => by omega

/-- A directive that turns colouring off takes the whole line. -/
theorem lineStartVerdict_keepsColor {directive : Directive} {width : Nat} {actions : List Action}
    (taken : lineStartVerdict line directive = .taken width actions) :
    ∀ action ∈ actions, action.KeepsColor := by
  cases directive with
  | docPart =>
    simp only [lineStartVerdict, docPartVerdict] at taken
    split at taken <;> cases taken
  | _ =>
    simp only [lineStartVerdict, languageDirective] at taken
    first
    | cases taken
    | split at taken
      · cases taken <;>
          simp [Action.KeepsColor, paintDirective, Restart.suppressesColor]
      · cases taken

/-- Where the line goes on behind a match, colouring is not turned off. -/
theorem firstVerdict_keepsColor {matchers : List Matcher} {width : Nat} {actions : List Action}
    (taken : firstVerdict mode line column matchers = .taken width actions) :
    ∀ action ∈ actions, action.KeepsColor := by
  rcases firstVerdict_ordinary_or mode line column matchers with ordinary | ⟨-, directive, same⟩
  · rw [taken] at ordinary
    exact fun action member => (ordinary action member).keepsColor
  · exact lineStartVerdict_keepsColor (same.symm.trans taken)

/-- At the start of a line that goes on colouring is not turned off, and is turned on if it was
off. -/
theorem resume_keepsColor {restart : Restart} {actions : List Action}
    (resumes : resume mode line restart = .at column actions) :
    (∀ action ∈ actions, action.KeepsColor) ∧
      (restart.suppressesColor = true → .arm .color ∈ actions) := by
  cases restart with
  | clear =>
    cases resumes
    simp [Restart.suppressesColor]
  | span form =>
    have ofRule := resumeSpan_ofRule mode line form
    rw [show resumeSpan mode line form = .at column actions from resumes] at ofRule
    exact ⟨fun action member => (ofRule.ordinary action member).keepsColor,
      by simp [Restart.suppressesColor]⟩
  | docPart =>
    refine ⟨?_, by simp [Restart.suppressesColor]⟩
    simp only [resume, resumeDocPart, languageDirective] at resumes
    split at resumes
    · cases resumes
      simp [Action.KeepsColor, paintDirective]
    · split at resumes
      · cases resumes
        simp [Action.KeepsColor, paintDirective]
      · split at resumes
        · cases resumes
          simp [Action.KeepsColor, paintDirective]
        · cases resumes
  | color =>
    simp only [resume, resumeColor] at resumes
    repeat' split at resumes
    all_goals cases resumes
    simp [Action.KeepsColor, Restart.suppressesColor]
  | noColor =>
    simp only [resume, resumeNoColor] at resumes
    split at resumes
    · cases resumes
      simp [Action.KeepsColor, Restart.suppressesColor, paintDirective]
    · cases resumes
  | noColorNode => cases resumes
  | killColor => cases resumes

/-! ## Runs -/

namespace Run

variable {options : Options} {run reached : Run}

/-- What is kept by every action that verdicts ask for from a column on is kept to the end of the
line. -/
theorem dispatch_keeps_asked (holds : Run → Prop) (asked : Action → Prop) (first : Nat)
    (verdicts : ∀ (mode : Mode) (column : Nat) (matchers : List Matcher), first ≤ column →
      ∀ action ∈ (firstVerdict mode line column matchers).actions, asked action)
    (step : ∀ run, holds run → holds run.step)
    (each : ∀ run action, asked action → holds run → holds (run.perform options line action))
    (rest : List Char) : ∀ (column skip : Nat) {run : Run}, first ≤ column → holds run →
      holds (dispatch options line column skip run rest) := by
  induction rest with
  | nil => exact fun _ _ _ _ before => before
  | cons c rest ih =>
    intro column skip run behind before
    have later : first ≤ column + 1 := Nat.le_succ_of_le behind
    cases skip with
    | succ skip => exact ih (column + 1) skip later before
    | zero =>
      have stepped := step run before
      have asks := verdicts run.mode column (run.mode.matchersAt c) behind
      rw [dispatch_cons]
      generalize firstVerdict run.mode line column (run.mode.matchersAt c) = verdict at asks ⊢
      have performed : holds (run.step.performAll options line verdict.actions) :=
        performAll_keeps_of_mem holds
          (fun run action member => each run action (asks action member)) stepped
      cases verdict with
      | declined => exact ih (column + 1) 0 later stepped
      | passed width => exact ih (column + 1) (width - 1) later stepped
      | taken width actions => exact ih (column + 1) (width - 1) later performed
      | endsLine actions => exact performed

/-- What every action keeps that rules ask for is kept behind the first column. -/
theorem dispatch_keeps_behind (holds : Run → Prop) (step : ∀ run, holds run → holds run.step)
    (each : ∀ run action, action.Ordinary → holds run → holds (run.perform options line action))
    (rest : List Char) (skip : Nat) {run : Run} (behind : 1 ≤ column) (before : holds run) :
    holds (dispatch options line column skip run rest) :=
  dispatch_keeps_asked holds Action.Ordinary 1
    (fun _ _ matchers behind => firstVerdict_ordinary behind matchers) step each rest column skip
    behind before

/-! ### Colouring -/

theorem switchLanguage_unsuppressed (on : run.suppressed = false) (name : String) :
    (run.switchLanguage name).suppressed = false := by
  rw [switchLanguage_eq]
  split
  · exact on
  · split
    · exact on
    · rfl

theorem paint_suppressed (options : Options) (line : List Char) (painting : Painting) (run : Run) :
    (run.paint options line painting).suppressed = run.suppressed := by
  unfold paint
  split <;> rfl

/-- Colouring stays on unless an action turns it off. -/
theorem perform_unsuppressed {action : Action} (keeps : action.KeepsColor) (line : List Char)
    (on : run.suppressed = false) : (run.perform options line action).suppressed = false := by
  cases action with
  | paint painting => exact (paint_suppressed options line painting run).trans on
  | arm restart => exact keeps
  | close => rfl
  | switchLanguage name => exact switchLanguage_unsuppressed on name

/-- It is on in the end if it was in the beginning or was turned on in between. -/
theorem performAll_unsuppressed {actions : List Action}
    (keep : ∀ action ∈ actions, action.KeepsColor) : ∀ {run : Run},
    (run.suppressed = false ∨ .arm .color ∈ actions) →
      (run.performAll options line actions).suppressed = false := by
  induction actions with
  | nil =>
    intro run either
    exact either.resolve_right List.not_mem_nil
  | cons action actions ih =>
    intro run either
    refine ih (fun other member => keep other (List.mem_cons_of_mem _ member)) ?_
    rcases either with on | member
    · exact .inl (perform_unsuppressed (keep action List.mem_cons_self) line on)
    · rcases List.mem_cons.mp member with rfl | later
      · exact .inl rfl
      · exact .inr later

/-- No character is dispatched on with colouring off. -/
theorem Comes.unsuppressed {skip place : Nat} {rest : List Char}
    (comes : Comes options line column skip run rest place reached)
    (on : run.suppressed = false) : reached.suppressed = false := by
  induction comes with
  | here => exact on
  | skip _ ih => exact ih on
  | declined _ _ ih => exact ih on
  | passed _ _ ih => exact ih on
  | taken verdict _ ih =>
    exact ih (performAll_unsuppressed (firstVerdict_keepsColor verdict) (.inl on))

/-- The state that the line would leave tells whether colouring is off. -/
def TellsColor (run : Run) : Prop :=
  ∃ restart, run.states.continuationOf run.state = .ok (some ⟨run.mode.ruleset, restart⟩) ∧
    run.suppressed = restart.suppressesColor

theorem TellsColor.switchLanguage (tells : run.TellsColor) (name : String) :
    (run.switchLanguage name).TellsColor := by
  rw [switchLanguage_eq]
  split
  · exact tells
  · split
    · exact tells
    · exact ⟨.clear, States.continuationOf_stateOf .., rfl⟩

theorem TellsColor.perform (tells : run.TellsColor) (options : Options) (line : List Char)
    (action : Action) : (run.perform options line action).TellsColor := by
  cases action with
  | paint painting =>
    show (run.paint options line painting).TellsColor
    unfold paint
    split
    · exact tells
    · exact tells
  | arm restart => exact ⟨restart, States.continuationOf_stateOf .., rfl⟩
  | close => exact ⟨.clear, States.continuationOf_stateOf .., rfl⟩
  | switchLanguage name => exact tells.switchLanguage name

end Run

end Highlighter.Line
