import Highlighter.Proofs.Line.LineStart
import Highlighter.Proofs.Registry.Leading
import Highlighter.Proofs.Session.Consulting

/-!
# Lines that change the language

Only `@language` changes the mode in force, and it only counts at the start of a line: where a
documentation part may end, and among the first matchers where nothing is open.  From there on the
line is in the mode that it found, and everything else that happens to it leaves the mode alone.
-/

namespace Highlighter.Line

/-- An action that leaves the language as it is. -/
def Action.KeepsLanguage : Action → Prop
  | .switchLanguage _ => False
  | _ => True

theorem Action.Ordinary.keepsLanguage {action : Action} (ordinary : action.Ordinary) :
    action.KeepsLanguage := by
  cases action with
  | switchLanguage name => cases ordinary
  | _ => exact trivial

/-- What is open at the start of a line lets the directive `@language` count there. -/
def HeedsLanguage (mode : Mode) (restart : Restart) : Prop :=
  restart = .docPart ∨ (restart = .clear ∨ restart = .color) ∧ mode.isUnknown = false

variable {mode : Mode} {line : List Char} {column : Nat} {restart : Restart}

/-! ## What verdicts ask for -/

theorem lineStartVerdict_keepsLanguage (other : startsWithWord line "@language" = false)
    (directive : Directive) :
    ∀ action ∈ (lineStartVerdict line directive).actions, action.KeepsLanguage := by
  cases directive with
  | docPart =>
    simp only [lineStartVerdict, docPartVerdict]
    split <;> simp [Verdict.actions, paintDirective, Action.KeepsLanguage]
  | language => simp [lineStartVerdict, other, Verdict.actions]
  | leoKeywords => simp [lineStartVerdict, Verdict.actions]
  | sectionRef => simp [lineStartVerdict, Verdict.actions]
  | url => simp [lineStartVerdict, Verdict.actions]
  | _ =>
    simp only [lineStartVerdict]
    split <;> simp [Verdict.actions, paintDirective, Action.KeepsLanguage]

/-- A line that does not start with `@language` asks for no language. -/
theorem firstVerdict_keepsLanguage (other : startsWithWord line "@language" = false)
    (mode : Mode) (column : Nat) (matchers : List Matcher) :
    ∀ action ∈ (firstVerdict mode line column matchers).actions, action.KeepsLanguage := by
  rcases firstVerdict_ordinary_or mode line column matchers with ordinary | ⟨-, directive, same⟩
  · exact fun action member => (ordinary action member).keepsLanguage
  · rw [same]
    exact lineStartVerdict_keepsLanguage other directive

/-- What is open at the start of a line asks for no language, unless it is a documentation part. -/
theorem resume_keepsLanguage (mode : Mode)
    (either : startsWithWord line "@language" = false ∨ restart ≠ .docPart) :
    ∀ action ∈ (resume mode line restart).actions, action.KeepsLanguage := by
  cases restart with
  | clear => simp [resume, Resumption.actions]
  | span form =>
    exact fun action member =>
      ((resumeSpan_ofRule mode line form).ordinary action member).keepsLanguage
  | docPart =>
    have other := either.resolve_right fun ne => ne rfl
    simp only [resume, resumeDocPart, other, Bool.false_eq_true, if_false]
    split
    · simp [Resumption.actions, paintDirective, Action.KeepsLanguage]
    · split <;> simp [Resumption.actions, paintDirective, Action.KeepsLanguage]
  | color =>
    simp only [resume, resumeColor]
    split
    · simp [Resumption.actions, Action.KeepsLanguage]
    · split
      · simp [Resumption.actions, Action.KeepsLanguage]
      · split <;> simp [Resumption.actions, Action.KeepsLanguage]
  | noColor =>
    simp only [resume, resumeNoColor]
    split <;> simp [Resumption.actions, paintDirective, Action.KeepsLanguage]
  | noColorNode => simp [resume, Resumption.actions, Action.KeepsLanguage]
  | killColor => simp [resume, Resumption.actions, Action.KeepsLanguage]

/-- Among the directives that stand in front at `@`, the one that finds something on a line with
`@language` is that one. -/
theorem firstVerdict_language (first : mode.DirectivesFirst)
    (starts : startsWithWord line "@language") :
    firstVerdict mode line 0 (mode.matchersAt '@') =
      .taken (languageDirective line).1 (languageDirective line).2 := by
  obtain ⟨rules, listed⟩ := first
  have noPart := docPartVerdict_eq_declined starts (by decide +kernel) (by rfl) (by decide)
  have noWrap := startsWithWord_eq_false starts "@wrap" (by decide +kernel)
  have noNode := startsWithWord_eq_false starts "@nocolor-node" (by decide +kernel)
  have noNoColor := startsWithWord_eq_false starts "@nocolor" (by decide +kernel)
  rw [listed]
  simp [Directive.atDirectives, firstVerdict, matcherVerdict, directiveVerdict, lineStartVerdict,
    noPart, noWrap, noNode, noNoColor, starts]

theorem languageDirective_behind (line : List Char) : 1 ≤ (languageDirective line).1 := by
  have word : "@language".length ≤ skipIdentifier line (skipBlanks line "@language".length) :=
    Nat.le_trans (Nat.le_add_right ..) (Nat.le_add_right ..)
  exact Nat.le_trans (by decide) word

/-- A line that does not heed `@language` goes on behind its first column or in a mode without
rules. -/
theorem resume_behind_of_not_heeds {actions : List Action}
    (stops : ∀ form, restart = .span form → form.stop ≠ [])
    (starts : startsWithWord line "@language") (ignores : ¬HeedsLanguage mode restart)
    (resumes : resume mode line restart = .at column actions) :
    1 ≤ column ∨ mode.isUnknown = true := by
  cases restart with
  | clear =>
    right
    by_contra known
    exact ignores (.inr ⟨.inl rfl, Bool.eq_false_iff.mpr known⟩)
  | color =>
    right
    by_contra known
    exact ignores (.inr ⟨.inr rfl, Bool.eq_false_iff.mpr known⟩)
  | docPart => exact absurd (.inl rfl) ignores
  | span form =>
    left
    have visible := List.length_pos_iff.mpr (stops form rfl)
    simp only [resume, resumeSpan] at resumes
    split at resumes
    · cases resumes
      omega
    · cases resumes
  | noColor =>
    simp only [resume, resumeNoColor,
      startsWithWord_eq_false starts "@color" (by decide +kernel)] at resumes
    cases resumes
  | noColorNode => cases resumes
  | killColor => cases resumes

/-! ## Runs -/

namespace Run

variable {options : Options} {run later : Run}

/-- The same mode is in force, and the same language was asked for. -/
structure SameLanguage (before after : Run) : Prop where
  mode : after.mode = before.mode
  switched : after.switched = before.switched

theorem SameLanguage.trans {first second third : Run} (one : first.SameLanguage second)
    (two : second.SameLanguage third) : first.SameLanguage third :=
  ⟨two.mode.trans one.mode, two.switched.trans one.switched⟩

/-- To count a step makes no difference. -/
theorem SameLanguage.of_step (same : run.step.SameLanguage later) : run.SameLanguage later :=
  ⟨same.mode, same.switched⟩

theorem perform_sameLanguage {action : Action} (keeps : action.KeepsLanguage) (line : List Char)
    (run : Run) : run.SameLanguage (run.perform options line action) := by
  cases action with
  | paint painting =>
    show run.SameLanguage (run.paint options line painting)
    unfold paint
    split <;> exact ⟨rfl, rfl⟩
  | arm restart => exact ⟨rfl, rfl⟩
  | close => exact ⟨rfl, rfl⟩
  | switchLanguage name => cases keeps

theorem performAll_sameLanguage {actions : List Action}
    (keep : ∀ action ∈ actions, action.KeepsLanguage) (line : List Char) (run : Run) :
    run.SameLanguage (run.performAll options line actions) :=
  performAll_keeps_of_mem run.SameLanguage
    (fun _ action member same => same.trans (perform_sameLanguage (keep action member) line _))
    ⟨rfl, rfl⟩

/-- Behind the first column, and on lines that do not start with `@language`, the language
stays. -/
theorem dispatch_sameLanguage (either : startsWithWord line "@language" = false ∨ 1 ≤ column)
    (rest : List Char) (skip : Nat) (run : Run) :
    run.SameLanguage (dispatch options line column skip run rest) := by
  refine dispatch_keeps_asked run.SameLanguage Action.KeepsLanguage column ?_
    (fun _ same => ⟨same.mode, same.switched⟩)
    (fun _ _ keeps same => same.trans (perform_sameLanguage keeps line _)) rest column skip
    (Nat.le_refl _) ⟨rfl, rfl⟩
  intro mode place matchers behind
  rcases either with other | inside
  · exact firstVerdict_keepsLanguage other mode place matchers
  · exact fun action member =>
      (firstVerdict_ordinary (Nat.le_trans inside behind) matchers action member).keepsLanguage

/-- On a line that does not start with `@language` matching comes to all places in one mode. -/
theorem Comes.mode_eq (other : startsWithWord line "@language" = false) {skip place : Nat}
    {rest : List Char} {reached : Run}
    (comes : Comes options line column skip run rest place reached) : reached.mode = run.mode := by
  induction comes with
  | here => rfl
  | skip _ ih => exact ih
  | declined _ _ ih => exact ih
  | passed _ _ ih => exact ih
  | taken verdict _ ih =>
    refine ih.trans (performAll_sameLanguage (fun action asked => ?_) line _).mode
    exact firstVerdict_keepsLanguage other _ _ _ action (by rwa [verdict])

/-- In a mode without rules a line comes to nothing. -/
theorem dispatch_sameLanguage_of_bare (rest : List Char) : ∀ (column skip : Nat) (run : Run),
    (∀ c, run.mode.matchersAt c = []) →
      run.SameLanguage (dispatch options line column skip run rest) := by
  induction rest with
  | nil => exact fun _ _ _ _ => ⟨rfl, rfl⟩
  | cons c rest ih =>
    intro column skip run bare
    cases skip with
    | succ skip => exact ih (column + 1) skip run bare
    | zero =>
      rw [dispatch_cons, bare c]
      obtain ⟨mode, switched⟩ := ih (column + 1) 0 run.step bare
      exact ⟨mode, switched⟩

/-- The mode in force is that of the language that was asked for since, if it was found, and else
the one of before. -/
structure Follows (before after : Run) : Prop where
  found : ∀ name, after.switched = some ⟨name, true⟩ →
    (before.canvas.registry.resolve? name).1 = some after.mode
  stays : (∀ name, after.switched ≠ some ⟨name, true⟩) → after.mode = before.mode

/-- A language was asked for since. -/
structure Switches (before after : Run) : Prop extends before.Follows after where
  asked : after.switched.isSome

variable {before : Run}

theorem Follows.refl (unswitched : run.switched = none) : run.Follows run :=
  ⟨fun _ found => (nomatch unswitched.symm.trans found), fun _ => rfl⟩

theorem Follows.trans_same (follows : before.Follows run) (same : run.SameLanguage later) :
    before.Follows later := by
  obtain ⟨found, stays⟩ := follows
  constructor
  · rw [same.mode, same.switched]
    exact found
  · rw [same.mode, same.switched]
    exact stays

theorem Switches.trans_same (switches : before.Switches run) (same : run.SameLanguage later) :
    before.Switches later := by
  refine ⟨switches.toFollows.trans_same same, ?_⟩
  rw [same.switched]
  exact switches.asked

/-- What was tagged and left open before, and how many steps were counted, makes no difference. -/
theorem Switches.of_same {other : Run} (switches : other.Switches later)
    (registry : other.canvas.registry = before.canvas.registry) (mode : other.mode = before.mode) :
    before.Switches later := by
  obtain ⟨⟨found, stays⟩, asked⟩ := switches
  rw [registry] at found
  rw [mode] at stays
  exact ⟨⟨found, stays⟩, asked⟩

theorem switchLanguage_switches (name : String) (run : Run) :
    run.Switches (run.switchLanguage name) := by
  rw [switchLanguage_eq]
  by_cases empty : name = ""
  · rw [if_pos empty]
    exact ⟨⟨fun _ found => (nomatch found), fun _ => rfl⟩, rfl⟩
  · rw [if_neg empty]
    by_cases unknown : (run.canvas.registry.resolve name).1.isUnknown
    · rw [if_pos unknown]
      exact ⟨⟨fun _ found => (nomatch found), fun _ => rfl⟩, rfl⟩
    · rw [if_neg unknown]
      refine ⟨⟨fun other found => ?_, fun never => absurd rfl (never name)⟩, rfl⟩
      cases found
      exact if_neg unknown

variable (options)

/-- To tag a directive asks for no mode. -/
theorem paintDirective_registry (start stop : Nat) (line : List Char) (run : Run) :
    (run.perform options line (paintDirective start stop)).canvas.registry =
      run.canvas.registry := by
  show (run.paint options line ⟨start, stop, .leoKeyword, none, false⟩).canvas.registry = _
  unfold paint paintCanvas
  dsimp only
  split
  · rfl
  · split <;> simp [Canvas.paint]

/-- The directive `@language` asks for its language. -/
theorem performAll_language (line : List Char) (run : Run) :
    run.Switches (run.performAll options line (languageDirective line).2) := by
  have keeps : (paintDirective 0 "@language".length).KeepsLanguage := trivial
  have painted : run.SameLanguage (run.perform options line _) :=
    perform_sameLanguage keeps line run
  have switches : (run.perform options line (paintDirective 0 "@language".length)).Switches
      (run.performAll options line (languageDirective line).2) := switchLanguage_switches _ _
  exact switches.of_same (paintDirective_registry options 0 _ line run) painted.mode

variable {options}

/-- With nothing open, a line that starts with `@language` asks for its language and goes on
behind the directive. -/
theorem dispatch_language (first : run.mode.DirectivesFirst)
    (starts : startsWithWord line "@language") :
    run.Switches (dispatch options line 0 0 run line) := by
  obtain ⟨rest, same⟩ : ∃ rest, line = '@' :: rest := by
    obtain ⟨behind, rfl⟩ := prefix_of_startsWithWord starts
    exact ⟨"language".toList ++ behind, rfl⟩
  have verdict := firstVerdict_language first starts
  have onward : dispatch options line 0 0 run ('@' :: rest) =
      dispatch options line 1 ((languageDirective line).1 - 1)
        (run.step.performAll options line (languageDirective line).2) rest := by
    rw [dispatch_cons, verdict]
    rfl
  rw [← same] at onward
  rw [onward]
  have performed : run.Switches (run.step.performAll options line (languageDirective line).2) :=
    (performAll_language options line run.step).of_same rfl rfl
  exact performed.trans_same (dispatch_sameLanguage (.inr (Nat.le_refl 1)) rest _ _)

/-- A line that starts with `@language`, where that counts, asks for the language. -/
theorem start_language (directives : run.mode.isUnknown = false → run.mode.DirectivesFirst)
    (starts : startsWithWord line "@language") (heeds : HeedsLanguage run.mode restart) :
    run.Switches (run.start options line restart) := by
  rcases heeds with rfl | ⟨rfl | rfl, known⟩
  · have resumes : resume run.mode line .docPart =
        .at (languageDirective line).1 (languageDirective line).2 := by
      simp only [resume, resumeDocPart, starts, if_true]
    have behind := languageDirective_behind line
    rw [start_at resumes]
    apply Switches.trans_same _ (dispatch_sameLanguage (.inr behind) _ 0 _)
    exact (performAll_language options line run.step).of_same rfl rfl
  · have onward : run.start options line .clear = dispatch options line 0 0 run.step line := rfl
    have switches : run.step.Switches (dispatch options line 0 0 run.step line) :=
      dispatch_language (directives known) starts
    rw [onward]
    exact switches.of_same rfl rfl
  · have noKill := startsWithWord_eq_false starts "@killcolor" (by decide +kernel)
    have noNode := startsWithWord_eq_false starts "@nocolor-node" (by decide +kernel)
    have noNoColor := startsWithWord_eq_false starts "@nocolor" (by decide +kernel)
    have resumes : resume run.mode line .color = .at 0 [.arm .color] := by
      simp [resume, resumeColor, noKill, noNode, noNoColor]
    have switches : (run.step.arm .color).Switches
        (dispatch options line 0 0 (run.step.arm .color) line) :=
      dispatch_language (directives known) starts
    rw [start_at resumes]
    exact switches.of_same rfl rfl

/-- Otherwise the language stays. -/
theorem start_sameLanguage (bare : run.mode.isUnknown = true → ∀ c, run.mode.matchersAt c = [])
    (stops : ∀ form, restart = .span form → form.stop ≠ [])
    (either : startsWithWord line "@language" = false ∨ ¬HeedsLanguage run.mode restart) :
    run.SameLanguage (run.start options line restart) := by
  have keep : ∀ action ∈ (resume run.mode line restart).actions, action.KeepsLanguage :=
    resume_keepsLanguage run.mode
      (either.imp id fun ignores isDocPart => ignores (.inl isDocPart))
  cases resumes : resume run.mode line restart with
  | done actions =>
    rw [resumes] at keep
    rw [start_done resumes]
    exact (performAll_sameLanguage keep line run.step).of_step
  | «at» column actions =>
    rw [resumes] at keep
    have performed : run.step.SameLanguage (run.step.performAll options line actions) :=
      performAll_sameLanguage keep line run.step
    rw [start_at resumes]
    refine (performed.trans ?_).of_step
    cases starts : startsWithWord line "@language" with
    | false => exact dispatch_sameLanguage (.inl starts) _ 0 _
    | true =>
      have ignores := either.resolve_left (by simp [starts])
      rcases resume_behind_of_not_heeds stops starts ignores resumes with behind | unknown
      · exact dispatch_sameLanguage (.inr behind) _ 0 _
      · apply dispatch_sameLanguage_of_bare
        rw [performed.mode]
        exact bare unknown

/-- A line asks for a language exactly if it starts with `@language` where that counts, and goes on
in the language if it is found. -/
theorem start_switched_iff (unswitched : run.switched = none)
    (directives : run.mode.isUnknown = false → run.mode.DirectivesFirst)
    (bare : run.mode.isUnknown = true → ∀ c, run.mode.matchersAt c = [])
    (stops : ∀ form, restart = .span form → form.stop ≠ []) :
    ((run.start options line restart).switched.isSome ↔
      startsWithWord line "@language" ∧ HeedsLanguage run.mode restart) ∧
    run.Follows (run.start options line restart) := by
  by_cases heeds : startsWithWord line "@language" ∧ HeedsLanguage run.mode restart
  · have switches : run.Switches (run.start options line restart) :=
      start_language directives heeds.1 heeds.2
    exact ⟨⟨fun _ => heeds, fun _ => switches.asked⟩, switches.toFollows⟩
  · have either : startsWithWord line "@language" = false ∨ ¬HeedsLanguage run.mode restart := by
      rw [← Bool.not_eq_true]
      exact not_and_or.mp heeds
    have same : run.SameLanguage (run.start options line restart) :=
      start_sameLanguage bare stops either
    refine ⟨⟨fun asked => ?_, fun both => absurd both heeds⟩,
      (Follows.refl unswitched).trans_same same⟩
    rw [same.switched, unswitched] at asked
    cases asked

end Run

end Highlighter.Line
