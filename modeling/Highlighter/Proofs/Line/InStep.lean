import Highlighter.Proofs.Line.Repeating
import Highlighter.Proofs.Registry.Leading

/-!
# Runs in step

After `@color` a line is looked at for the directives that turn colouring off before it is
dispatched.  A line with nothing open comes upon them among the matchers of its first character,
where they stand before all rules.  So two runs of a line, one with nothing open and one after
`@color`, do the same to the line, and stay in step up to the numbers of their states.

The two differ on one kind of line: `@nocolor-` with anything but `node` behind it is the directive
`@nocolor` after `@color`, and no directive with nothing open.
-/

namespace Highlighter.Line

variable {mode : Mode} {line : List Char} {word : String}

/-! ## Directives that turn colouring off -/

/-- If a line starts with `@nocolor-`, then with the word `@nocolor-node`. -/
def NoColorInFull (line : List Char) : Prop :=
  "@nocolor-".toList.isPrefixOf line → startsWithWord line "@nocolor-node"

instance : DecidablePred NoColorInFull :=
  fun _ => inferInstanceAs (Decidable (_ → _))

theorem firstVerdict_killColor (first : mode.DirectivesFirst)
    (starts : startsWithWord line "@killcolor") :
    firstVerdict mode line 0 (mode.matchersAt '@') = .endsLine [.arm .killColor] := by
  obtain ⟨rules, listed⟩ := first
  have noPart := docPartVerdict_eq_declined starts (by decide +kernel) (by rfl) (by decide)
  have noWrap := startsWithWord_eq_false starts "@wrap" (by decide +kernel)
  have noNode := startsWithWord_eq_false starts "@nocolor-node" (by decide +kernel)
  have noNoColor := startsWithWord_eq_false starts "@nocolor" (by decide +kernel)
  have noLanguage := startsWithWord_eq_false starts "@language" (by decide +kernel)
  rw [listed]
  simp [Directive.atDirectives, firstVerdict, matcherVerdict, directiveVerdict, lineStartVerdict,
    noPart, noWrap, noNode, noNoColor, noLanguage, starts]

theorem firstVerdict_noColorNode (first : mode.DirectivesFirst)
    (starts : startsWithWord line "@nocolor-node") :
    firstVerdict mode line 0 (mode.matchersAt '@') = .endsLine [.arm .noColorNode] := by
  obtain ⟨rules, listed⟩ := first
  have noPart := docPartVerdict_eq_declined starts (by decide +kernel) (by rfl) (by decide)
  have noWrap := startsWithWord_eq_false starts "@wrap" (by decide +kernel)
  rw [listed]
  simp [Directive.atDirectives, firstVerdict, matcherVerdict, directiveVerdict, lineStartVerdict,
    noPart, noWrap, starts]

theorem firstVerdict_noColor (first : mode.DirectivesFirst)
    (starts : startsWithWord line "@nocolor")
    (notNode : startsWithWord line "@nocolor-node" = false) (inFull : NoColorInFull line) :
    firstVerdict mode line 0 (mode.matchersAt '@') = .endsLine [.arm .noColor] := by
  obtain ⟨rules, listed⟩ := first
  have noPart := docPartVerdict_eq_declined starts (by decide +kernel) (by rfl) (by decide)
  have noWrap := startsWithWord_eq_false starts "@wrap" (by decide +kernel)
  have noHyphen : "@nocolor-".toList.isPrefixOf line = false := by
    rw [Bool.eq_false_iff]
    intro hyphen
    rw [inFull hyphen] at notNode
    cases notNode
  rw [listed]
  simp only [Directive.atDirectives, List.map_cons, List.cons_append, firstVerdict, matcherVerdict,
    directiveVerdict, lineStartVerdict, noPart, noWrap, notNode, noHyphen, starts]
  rfl

/-- Where colouring is turned off at the start of a line after `@color`, it is by the first matcher
that finds something as well. -/
theorem resumeColor_cases (first : mode.DirectivesFirst) (inFull : NoColorInFull line) :
    resumeColor line = .at 0 [.arm .color] ∨
      ∃ restart rest, line = '@' :: rest ∧ resumeColor line = .done [.arm restart] ∧
        firstVerdict mode line 0 (mode.matchersAt '@') = .endsLine [.arm restart] := by
  have atSign : ∀ {word : String} {rest : List Char}, startsWithWord line word →
      word.toList = '@' :: rest → ∃ rest, line = '@' :: rest := by
    intro word rest starts letters
    obtain ⟨behind, rfl⟩ := prefix_of_startsWithWord starts
    exact ⟨rest ++ behind, by rw [letters, List.cons_append]⟩
  unfold resumeColor
  cases kill : startsWithWord line "@killcolor" with
  | true =>
    obtain ⟨rest, same⟩ := atSign kill (by rfl)
    exact .inr ⟨.killColor, rest, same, rfl, firstVerdict_killColor first kill⟩
  | false =>
    cases node : startsWithWord line "@nocolor-node" with
    | true =>
      obtain ⟨rest, same⟩ := atSign node (by rfl)
      exact .inr ⟨.noColorNode, rest, same, rfl, firstVerdict_noColorNode first node⟩
    | false =>
      cases off : startsWithWord line "@nocolor" with
      | true =>
        obtain ⟨rest, same⟩ := atSign off (by rfl)
        exact .inr ⟨.noColor, rest, same, rfl, firstVerdict_noColor first off node inFull⟩
      | false => exact .inl rfl

/-! ## Runs -/

/-- Two things to be open at the start of a line that make no difference to it in a mode: the same,
or nothing and that colouring was turned on. -/
def Indifferent (mode : Mode) (one two : Restart) : Prop :=
  one = two ∨ one = .clear ∧ two = .color ∧ mode.DirectivesFirst

namespace Run

variable {options : Options}

/-- Two runs in the same mode that have tagged the same and would leave things open that make no
difference. -/
structure InStep (first second : Run) : Prop where
  settled : first.canvas.registry.Settled []
  kept : first.canvas.registry.get? first.mode.ruleset = some first.mode
  canvas : second.canvas = first.canvas
  mode : second.mode = first.mode
  suppressed : second.suppressed = first.suppressed
  switched : second.switched = first.switched
  leaves : ∃ one two, Indifferent first.mode one two ∧
    first.states.continuationOf first.state = .ok (some ⟨first.mode.ruleset, one⟩) ∧
    second.states.continuationOf second.state = .ok (some ⟨second.mode.ruleset, two⟩)

variable {first second : Run}

/-- The steps that were counted make no difference. -/
theorem InStep.count (inStep : first.InStep second) (one two : Nat) :
    InStep { first with steps := one } { second with steps := two } :=
  ⟨inStep.settled, inStep.kept, inStep.canvas, inStep.mode, inStep.suppressed, inStep.switched,
    inStep.leaves⟩

/-- To leave the same open brings the runs together. -/
theorem InStep.toState (inStep : first.InStep second) (restart : Restart) (suppressed : Bool) :
    InStep
      { first with
        state := (first.states.stateOf ⟨first.mode.ruleset, restart⟩).1
        states := (first.states.stateOf ⟨first.mode.ruleset, restart⟩).2
        suppressed }
      { second with
        state := (second.states.stateOf ⟨second.mode.ruleset, restart⟩).1
        states := (second.states.stateOf ⟨second.mode.ruleset, restart⟩).2
        suppressed } where
  settled := inStep.settled
  kept := inStep.kept
  canvas := inStep.canvas
  mode := inStep.mode
  suppressed := rfl
  switched := inStep.switched
  leaves := ⟨restart, restart, .inl rfl, States.continuationOf_stateOf ..,
    States.continuationOf_stateOf ..⟩

/-- The same canvas for both, with more modes, keeps runs in step. -/
theorem InStep.grown (inStep : first.InStep second) {canvas : Canvas}
    (settled : canvas.registry.Settled [])
    (grows : first.canvas.registry.GrowsTo canvas.registry) :
    InStep { first with canvas } { second with canvas } :=
  ⟨settled, grows.modes inStep.kept, rfl, inStep.mode, inStep.suppressed, inStep.switched,
    inStep.leaves⟩

theorem InStep.asked (inStep : first.InStep second) (switched : Option LanguageSwitch) :
    InStep { first with switched } { second with switched } :=
  ⟨inStep.settled, inStep.kept, inStep.canvas, inStep.mode, inStep.suppressed, rfl, inStep.leaves⟩

theorem InStep.paint (inStep : first.InStep second) (painting : Painting) :
    (first.paint options line painting).InStep (second.paint options line painting) := by
  have repeats := paintCanvas_repeats options line painting
  have painted := inStep.grown (repeats.settled inStep.settled) (repeats.grows inStep.settled)
  by_cases silent : first.suppressed
  · have silentToo : second.suppressed := inStep.suppressed ▸ silent
    simpa [Run.paint, silent, silentToo] using inStep
  · have notSilent : ¬second.suppressed := inStep.suppressed ▸ silent
    simpa [Run.paint, silent, notSilent, inStep.canvas] using painted

theorem InStep.switchLanguage (inStep : first.InStep second) (name : String) :
    (first.switchLanguage name).InStep (second.switchLanguage name) := by
  have settled := Registry.resolve_settled inStep.settled name
  have grows := Registry.resolve_growsTo inStep.settled name
  have kept := settled.own (Registry.get?_resolve inStep.settled name)
  rw [switchLanguage_eq, switchLanguage_eq]
  simp only [Run.found, Run.entered, inStep.canvas]
  split
  · exact (inStep.grown inStep.settled (.refl _)).asked _
  · split
    · exact (inStep.grown settled grows).asked _
    · refine ⟨settled, kept, rfl, rfl, rfl, rfl, .clear, .clear, .inl rfl, ?_, ?_⟩
      · exact States.continuationOf_stateOf ..
      · exact States.continuationOf_stateOf ..

/-- Runs stay in step when an action is performed. -/
theorem InStep.perform (inStep : first.InStep second) (action : Action) :
    (first.perform options line action).InStep (second.perform options line action) := by
  cases action with
  | paint painting => exact inStep.paint painting
  | arm restart => exact inStep.toState restart restart.suppressesColor
  | close => exact inStep.toState .clear false
  | switchLanguage name => exact inStep.switchLanguage name

theorem InStep.performAll (actions : List Action) : ∀ {first second : Run}, first.InStep second →
    (first.performAll options line actions).InStep (second.performAll options line actions) := by
  induction actions with
  | nil => exact fun inStep => inStep
  | cons action actions ih => exact fun inStep => ih (inStep.perform action)

/-- Runs stay in step to the end of the line. -/
theorem InStep.dispatch (rest : List Char) : ∀ (column skip : Nat) {first second : Run},
    first.InStep second → (dispatch options line column skip first rest).InStep
      (dispatch options line column skip second rest) := by
  induction rest with
  | nil => exact fun _ _ _ _ inStep => inStep
  | cons c rest ih =>
    intro column skip first second inStep
    cases skip with
    | succ skip => exact ih (column + 1) skip inStep
    | zero =>
      have stepped : first.step.InStep second.step := inStep.count _ _
      rw [dispatch_cons, dispatch_cons, inStep.mode]
      cases firstVerdict first.mode line column (first.mode.matchersAt c) with
      | declined => exact ih (column + 1) 0 stepped
      | passed width => exact ih (column + 1) (width - 1) stepped
      | taken width actions =>
        exact ih (column + 1) (width - 1) (InStep.performAll actions stepped)
      | endsLine actions => exact InStep.performAll actions stepped

theorem InStep.goOn (inStep : first.InStep second) (resumption : Resumption) :
    (goOn options line resumption first).InStep (goOn options line resumption second) := by
  cases resumption with
  | done actions => exact InStep.performAll actions inStep
  | «at» column actions => exact .dispatch _ column 0 (InStep.performAll actions inStep)

/-- A verdict that ends the line is the last. -/
theorem dispatch_of_endsLine {run : Run} {column : Nat} {c : Char} {rest : List Char}
    {actions : List Action}
    (verdict : firstVerdict run.mode line column (run.mode.matchersAt c) = .endsLine actions) :
    Run.dispatch options line column 0 run (c :: rest) =
      run.step.performAll options line actions := by
  rw [dispatch_cons, verdict]
  rfl

/-- Runs that start from what makes no difference end in step. -/
theorem InStep.start (inStep : first.InStep second) {one two : Restart}
    (indifferent : Indifferent first.mode one two)
    (stands : first.states.continuationOf first.state = .ok (some ⟨first.mode.ruleset, one⟩))
    (suppressed : first.suppressed = one.suppressesColor) (inFull : NoColorInFull line) :
    (first.start options line one).InStep (second.start options line two) := by
  have stepped : first.step.InStep second.step := inStep.count _ _
  rw [start_eq, start_eq, inStep.mode]
  rcases indifferent with rfl | ⟨rfl, rfl, directives⟩
  · exact stepped.goOn _
  · show (Run.goOn options line (.at 0 []) first.step).InStep
      (Run.goOn options line (resumeColor line) second.step)
    rcases resumeColor_cases directives inFull with
      resumes | ⟨restart, rest, same, resumes, verdict⟩
    · -- only the second run notes that colouring is turned on
      have noted : first.step.InStep (second.step.arm .color) :=
        { inStep.toState .color false with
          suppressed := suppressed.symm
          leaves := ⟨.clear, .color, .inr ⟨rfl, rfl, directives⟩, stands,
            States.continuationOf_stateOf ..⟩ }
      rw [resumes]
      exact .dispatch (line.drop 0) 0 0 noted
    · have turnedOff : (first.step.step.performAll options line [.arm restart]).InStep
          (second.step.performAll options line [.arm restart]) :=
        .performAll _ (inStep.count _ _)
      have ends : Run.dispatch options line 0 0 first.step ('@' :: rest) =
          first.step.step.performAll options line [.arm restart] :=
        dispatch_of_endsLine verdict
      rw [resumes]
      show (Run.dispatch options line 0 0 first.step (line.drop 0)).InStep _
      rw [List.drop_zero]
      rw [← same] at ends
      rw [ends]
      exact turnedOff

end Run

end Highlighter.Line
