import Highlighter.Proofs.Line.Leaving
import Highlighter.Proofs.Line.LocalActions
import Highlighter.Proofs.Line.Lowered

/-!
# Modes that ignore case

A line without `@` that is run in a mode whose rules are plain comes to the same as the line in
small letters.  Which matchers are tried at a letter may depend on its case, as the character that a
rule opens with need not be a letter to have one among its other forms; but such a rule finds
nothing there.
-/

namespace Highlighter

open Unicode (asciiLower)

/-! ## Rules -/

theorem Body.Plain.undelegated {body : Body} (plain : body.Plain) : body.Undelegated := by
  cases body with
  | token tag delegate => exact plain
  | span form => exact plain.1
  | restOfLine tag delegate excludeMatch => exact plain
  | nextWord tag excludeMatch => exact trivial
  | enclosed form => cases plain
  | patternBehind tag pattern patternTag excludeMatch => cases plain

/-- A plain rule has no delegate. -/
theorem Rule.Plain.undelegated {rule : Rule} (plain : rule.Plain) : rule.Undelegated := by
  intro form compiled
  have plainForm := plain form compiled
  cases form with
  | keywords => exact trivial
  | led opener anchors body =>
    cases opener with
    | literal text => exact Body.Plain.undelegated plainForm
    | pattern pattern => cases plainForm

/-! ## Modes -/

/-- What is tried at a character other than `@`: plain rules, and section references. -/
def Matcher.Plain : Matcher → Prop
  | .rule compiled => compiled.Plain
  | .directive found => found = .sectionRef

theorem Matcher.Plain.standsAlone {matcher : Matcher} (plain : matcher.Plain) :
    matcher.StandsAlone := by
  cases matcher with
  | rule rule => exact Rule.Plain.undelegated plain
  | directive directive => exact .inl plain

/-- A mode that ignores case has plain rules alone, and section references for the only directive
away from `@`.  Whatever is tried at an ASCII letter, what comes of it is what comes of trying the
same matchers, in the same order, at all of them. -/
structure Mode.Plain (mode : Mode) : Prop extends mode.IgnoresCase where
  rules : ∀ c rule, .rule rule ∈ mode.matchersAt c → rule.Plain
  directives : ∀ c directive, c ≠ '@' → .directive directive ∈ mode.matchersAt c →
    directive = .sectionRef
  letters : ∃ matchers : List Matcher, (∀ matcher ∈ matchers, matcher.Plain) ∧
    ∀ (line : List Char) (column : Nat) (c : Char) (rest : List Char),
      line.drop column = c :: rest → c.isAlpha →
      Line.firstVerdict mode line column (mode.matchersAt c) =
        Line.firstVerdict mode line column matchers

theorem Mode.Plain.of_listed {mode : Mode} {c : Char} (plain : mode.Plain) (away : c ≠ '@') :
    ∀ matcher ∈ mode.matchersAt c, matcher.Plain := by
  intro matcher listed
  cases matcher with
  | rule rule => exact plain.rules c rule listed
  | directive directive => exact plain.directives c directive away listed

/-- A span that a plain mode may leave open is handled by the mode alone, and ends at a marker
without letters. -/
theorem Mode.Plain.span {mode : Mode} (plain : mode.Plain) {form : SpanForm}
    (own : mode.MayLeave (.span form)) : form.delegate = none ∧ Line.Letterless form.stop := by
  obtain ⟨c, rule, opener, anchors, listed, led⟩ := own
  have plainForm := plain.rules c rule listed _ led
  cases opener with
  | literal text => exact plainForm
  | pattern pattern => cases plainForm

namespace Line

variable {mode : Mode} {line rest : List Char} {column : Nat} {c : Char}

theorem matcherVerdict_lowered (ignores : mode.IgnoresCase) {matcher : Matcher}
    (plain : matcher.Plain) (line : List Char) (column : Nat) :
    matcherVerdict mode (lowered line) column false matcher =
      matcherVerdict mode line column false matcher := by
  cases matcher with
  | rule rule => exact ruleVerdict_lowered ignores plain line column
  | directive directive =>
    cases plain
    exact sectionRefVerdict_lowered line column

theorem firstVerdict_lowered_of_plain (ignores : mode.IgnoresCase) {matchers : List Matcher}
    (plain : ∀ matcher ∈ matchers, matcher.Plain) (line : List Char) (column : Nat) :
    firstVerdict mode (lowered line) column matchers =
      firstVerdict mode line column matchers := by
  induction matchers with
  | nil => rfl
  | cons matcher matchers ih =>
    have rest := ih fun other member => plain other (List.mem_cons_of_mem _ member)
    have first := matcherVerdict_lowered ignores (plain matcher List.mem_cons_self) line column
    rw [firstVerdict, firstVerdict, first, rest]

/-- What is found first at a character is found at the same character in small letters, although
other matchers may be tried at the two. -/
theorem firstVerdict_lowered (plain : mode.Plain) (place : line.drop column = c :: rest)
    (away : c ≠ '@') :
    firstVerdict mode (lowered line) column (mode.matchersAt (asciiLower c)) =
      firstVerdict mode line column (mode.matchersAt c) := by
  by_cases letter : c.isAlpha
  · obtain ⟨matchers, matchersPlain, tries⟩ := plain.letters
    have lowerPlace : (lowered line).drop column = asciiLower c :: lowered rest := by
      rw [lowered_drop, place, lowered_cons]
    rw [tries line column c rest place letter,
      tries (lowered line) column _ _ lowerPlace (by simpa using letter)]
    exact firstVerdict_lowered_of_plain plain.toIgnoresCase matchersPlain line column
  · have same : asciiLower c = c := (Unicode.asciiLower_eq_iff (by simpa using letter)).mpr rfl
    rw [same]
    exact firstVerdict_lowered_of_plain plain.toIgnoresCase
      (plain.of_listed away) line column

/-! ## The start of a line -/

theorem resumeDocPart_of_notMem (noAt : '@' ∉ line) : resumeDocPart line =
    .done [.arm .docPart, .paint { start := 0, stop := line.length, tag := .docPart }] := by
  have noLanguage := startsWithWord_of_notMem noAt "@language" (by decide +kernel)
  have noC := startsWithWord_of_notMem noAt "@c" (by decide +kernel)
  have noCode := startsWithWord_of_notMem noAt "@code" (by decide +kernel)
  simp [resumeDocPart, noLanguage, noC, noCode]

theorem resumeColor_of_notMem (noAt : '@' ∉ line) :
    resumeColor line = .at 0 [.arm .color] := by
  have noKill := startsWithWord_of_notMem noAt "@killcolor" (by decide +kernel)
  have noNode := startsWithWord_of_notMem noAt "@nocolor-node" (by decide +kernel)
  have noOff := startsWithWord_of_notMem noAt "@nocolor" (by decide +kernel)
  simp [resumeColor, noKill, noNode, noOff]

theorem resumeNoColor_of_notMem (noAt : '@' ∉ line) :
    resumeNoColor line = .done [.arm .noColor] := by
  have noColor := startsWithWord_of_notMem noAt "@color" (by decide +kernel)
  simp [resumeNoColor, noColor]

theorem resume_lowered (plain : mode.Plain) {restart : Restart} (own : mode.MayLeave restart)
    (noAt : '@' ∉ line) : resume mode (lowered line) restart = resume mode line restart := by
  have noAtLowered : '@' ∉ lowered line := by rwa [mem_lowered_iff (by decide)]
  cases restart with
  | span form =>
    have letterless := (plain.span own).2
    simp only [resume, resumeSpan, findSpanEnd_lowered plain.escape letterless, lowered_length]
  | docPart =>
    rw [resume, resume, resumeDocPart_of_notMem noAt, resumeDocPart_of_notMem noAtLowered,
      lowered_length]
  | color => rw [resume, resume, resumeColor_of_notMem noAt, resumeColor_of_notMem noAtLowered]
  | noColor =>
    rw [resume, resume, resumeNoColor_of_notMem noAt, resumeNoColor_of_notMem noAtLowered]
  | clear => rfl
  | noColorNode => rfl
  | killColor => rfl

theorem resume_local (plain : mode.Plain) {restart : Restart} (own : mode.MayLeave restart)
    (noAt : '@' ∉ line) : AllLocal (resume mode line restart).actions := by
  cases restart with
  | span form =>
    exact (resumeSpan_ofRule mode line form).isLocal (plain.span own).1
  | docPart =>
    rw [resume, resumeDocPart_of_notMem noAt]
    simp [AllLocal, Resumption.actions, Action.IsLocal]
  | color =>
    rw [resume, resumeColor_of_notMem noAt]
    simp [AllLocal, Resumption.actions, Action.IsLocal]
  | noColor =>
    rw [resume, resumeNoColor_of_notMem noAt]
    simp [AllLocal, Resumption.actions, Action.IsLocal]
  | clear => simp [resume, AllLocal, Resumption.actions]
  | noColorNode => simp [resume, AllLocal, Resumption.actions, Action.IsLocal]
  | killColor => simp [resume, AllLocal, Resumption.actions, Action.IsLocal]

/-! ## Runs -/

namespace Run

variable {options : Options}

theorem add_lowered (line : List Char) (start stop : Nat) (tag : Tag) (canvas : Canvas) :
    canvas.add (lowered line) start stop tag = canvas.add line start stop tag := by
  simp only [Canvas.add, lowered_length]

/-- Where no addresses are looked for, a local action does the same to a line in small letters. -/
theorem perform_lowered (noUrls : options.highlightUrls = false) {action : Action}
    (isLocal : action.IsLocal) (line : List Char) (run : Run) :
    run.perform options (lowered line) action = run.perform options line action := by
  cases action with
  | paint painting =>
    have own : painting.delegate = none := isLocal
    simp [perform, paint, paintCanvas, Canvas.paint, noUrls, own, add_lowered]
  | arm restart => rfl
  | close => rfl
  | switchLanguage name => cases isLocal

theorem performAll_lowered (noUrls : options.highlightUrls = false) (line : List Char)
    {actions : List Action} (allLocal : AllLocal actions) : ∀ run : Run,
    run.performAll options (lowered line) actions = run.performAll options line actions := by
  induction actions with
  | nil => exact fun run => rfl
  | cons action actions ih =>
    intro run
    have isLocal := allLocal action List.mem_cons_self
    show performAll options (lowered line) (run.perform options (lowered line) action) actions = _
    rw [perform_lowered noUrls isLocal line run]
    exact ih (fun other member => allLocal other (List.mem_cons_of_mem _ member)) _

/-- The rest of a line without `@` is dispatched like that of the line in small letters. -/
theorem dispatch_lowered (noUrls : options.highlightUrls = false) {mode : Mode}
    (plain : mode.Plain) (noAt : '@' ∉ line) (rest : List Char) :
    ∀ (column skip : Nat) (run : Run), run.mode = mode → line.drop column = rest →
      dispatch options (lowered line) column skip run (lowered rest) =
        dispatch options line column skip run rest := by
  induction rest with
  | nil => exact fun _ _ _ _ _ => rfl
  | cons c rest ih =>
    intro column skip run inMode place
    have next : line.drop (column + 1) = rest := Text.drop_succ place
    cases skip with
    | succ skip => exact ih (column + 1) skip run inMode next
    | zero =>
      have away : c ≠ '@' := by
        rintro rfl
        exact noAt (List.mem_of_mem_drop (place ▸ List.mem_cons_self))
      -- other matchers may be listed at the small letter, but what they find is the same
      have verdict := firstVerdict_lowered plain place away
      have isLocal : AllLocal
          (firstVerdict mode line column (mode.matchersAt c)).actions :=
        firstVerdict_local fun matcher listed => (plain.of_listed away matcher listed).standsAlone
      rw [lowered_cons, dispatch_cons, dispatch_cons, inMode, verdict]
      generalize firstVerdict mode line column (mode.matchersAt c) = found at isLocal ⊢
      cases found with
      | declined => exact ih (column + 1) 0 run.step inMode next
      | passed width => exact ih (column + 1) (width - 1) run.step inMode next
      | taken width actions =>
        have actionsLocal : AllLocal actions := isLocal
        have kept : (run.step.performAll options line actions).mode = run.mode :=
          performAll_mode actionsLocal line run.step
        show dispatch options (lowered line) (column + 1) (width - 1)
          (run.step.performAll options (lowered line) actions) (lowered rest) = _
        rw [performAll_lowered noUrls line actionsLocal run.step]
        exact ih (column + 1) (width - 1) _ (kept.trans inMode) next
      | endsLine actions => exact performAll_lowered noUrls line isLocal run.step

/-- A line without `@` runs like the line in small letters. -/
theorem start_lowered (noUrls : options.highlightUrls = false) {run : Run}
    (plain : run.mode.Plain) {restart : Restart} (own : run.mode.MayLeave restart)
    (noAt : '@' ∉ line) :
    run.start options (lowered line) restart = run.start options line restart := by
  have resumes := resume_lowered plain own noAt
  have isLocal : AllLocal (resume run.mode line restart).actions := resume_local plain own noAt
  rw [start_eq, start_eq, resumes]
  generalize resume run.mode line restart = resumption at isLocal ⊢
  cases resumption with
  | done actions => exact performAll_lowered noUrls line isLocal run.step
  | «at» column actions =>
    have actionsLocal : AllLocal actions := isLocal
    have kept : (run.step.performAll options line actions).mode = run.mode :=
      performAll_mode actionsLocal line run.step
    show dispatch options (lowered line) column 0
      (run.step.performAll options (lowered line) actions) ((lowered line).drop column) = _
    rw [performAll_lowered noUrls line actionsLocal run.step, lowered_drop]
    exact dispatch_lowered noUrls plain noAt _ column 0 _ kept rfl

end Run

end Line

end Highlighter
