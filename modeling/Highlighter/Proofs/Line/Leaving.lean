import Highlighter.Proofs.Line.Arming

/-!
# What a line leaves open

A line leaves something open in the name of the mode in force.  If that is a span, a rule of the
mode has opened it, on this line or on an earlier one.  So every continuation among the states is
one that some mode may have left, and this mode is the one that is kept for it.
-/

namespace Highlighter

/-- What a mode may leave open: of spans, those of its own rules. -/
def Mode.MayLeave (mode : Mode) : Restart → Prop
  | .span form => ∃ c rule opener anchors, .rule rule ∈ mode.matchersAt c ∧
      rule.form = some (.led opener anchors (.span form))
  | _ => True

/-- A continuation is one that a mode may have left, and the mode is held under its identifier. -/
def Registry.Accounts (registry : Registry) (continuation : Continuation) : Prop :=
  ∃ mode, registry.Holds mode ∧ mode.ruleset = continuation.ruleset ∧
    mode.MayLeave continuation.restart

theorem Registry.Accounts.mono {registry later : Registry} {continuation : Continuation}
    (accounts : registry.Accounts continuation) (grows : registry.GrowsTo later) :
    later.Accounts continuation := by
  obtain ⟨mode, holds, same, leaves⟩ := accounts
  exact ⟨mode, holds.mono grows, same, leaves⟩

namespace Line

/-! ## What verdicts ask for -/

/-- If actions leave a span open, it is one of the mode's, which stays in force meanwhile. -/
structure Asks (mode : Mode) (actions : List Action) : Prop where
  leaves : ∀ form, .arm (.span form) ∈ actions → mode.MayLeave (.span form)
  stays : ∀ form, .arm (.span form) ∈ actions → ∀ name, .switchLanguage name ∉ actions

variable {mode : Mode} {line : List Char} {column inside : Nat} {actions : List Action}

theorem asks_of_no_span (none : ∀ form, .arm (.span form) ∉ actions) : Asks mode actions :=
  ⟨fun form member => absurd member (none form), fun form member => absurd member (none form)⟩

theorem Asks.tail {action : Action} (asks : Asks mode (action :: actions)) : Asks mode actions :=
  ⟨fun form member => asks.leaves form (List.mem_cons_of_mem _ member),
    fun form member name switch =>
      asks.stays form (List.mem_cons_of_mem _ member) name (List.mem_cons_of_mem _ switch)⟩

/-- Behind a change of language no span is left open, so any mode may be asked for the rest. -/
theorem Asks.tail_of_switch {name : String} (asks : Asks mode (.switchLanguage name :: actions))
    (other : Mode) : Asks other actions :=
  asks_of_no_span fun form member =>
    asks.stays form (List.mem_cons_of_mem _ member) name List.mem_cons_self

/-- A span that is left open is all that is asked for. -/
theorem asks_leaveSpan {form : SpanForm} (own : mode.MayLeave (.span form)) :
    Asks mode (leaveSpan line form column inside) where
  leaves := by
    intro other member
    obtain rfl := arm_mem_leaveSpan member
    exact own
  stays := by
    intro other _ name member
    rcases List.mem_append.mp member with painted | final
    · obtain ⟨painting, same⟩ := paintSpan_paints _ _ _ _ _ _ painted
      cases same
    · cases List.mem_singleton.mp final

/-- The verdict of the matchers that a mode lists for a character leaves its own spans open. -/
theorem firstVerdict_asks (c : Char) :
    Asks mode (firstVerdict mode line column (mode.matchersAt c)).actions := by
  by_cases arms : ∃ form,
      .arm (.span form) ∈ (firstVerdict mode line column (mode.matchersAt c)).actions
  · obtain ⟨form, arms⟩ := arms
    obtain ⟨before, rule, behind, inside, list, declined, leaves⟩ := firstVerdict_arms arms
    have listed : .rule rule ∈ mode.matchersAt c := by simp [list]
    rw [list, firstVerdict_of_leavesSpan declined leaves]
    obtain ⟨opener, anchors, width, shape, -⟩ := leaves
    exact asks_leaveSpan ⟨c, rule, opener, anchors, listed, shape⟩
  · exact asks_of_no_span (not_exists.mp arms)

/-- At the start of a line the span that is open may be left open again, and no other. -/
theorem resume_asks {restart : Restart} (own : mode.MayLeave restart) :
    Asks mode (resume mode line restart).actions := by
  by_cases arms : ∃ form, .arm (.span form) ∈ (resume mode line restart).actions
  · obtain ⟨form, arms⟩ := arms
    obtain ⟨rfl, done⟩ := resume_arms arms
    rw [done]
    exact asks_leaveSpan own
  · exact asks_of_no_span (not_exists.mp arms)

/-! ## Runs -/

namespace Run

/-- A sound run whose continuations were all left by modes that are held, the one that the line
would leave by the mode in force. -/
structure Accounted (run : Run) : Prop where
  sound : run.Sound
  accounts : ∀ continuation ∈ run.states.continuations,
    run.canvas.registry.Accounts continuation
  current : ∃ restart, run.states.continuationOf run.state = .ok (some ⟨run.mode.ruleset, restart⟩)

variable {run : Run} (options : Options)

/-- Leaving something open that the mode in force may leave keeps all accounted for. -/
theorem Accounted.toState (accounted : run.Accounted) {restart : Restart}
    (leaves : run.mode.MayLeave restart) (suppressed : Bool) :
    Accounted { run with
      state := (run.states.stateOf ⟨run.mode.ruleset, restart⟩).1
      states := (run.states.stateOf ⟨run.mode.ruleset, restart⟩).2
      suppressed } where
  sound := (toState_repeats restart suppressed).sound accounted.sound
  accounts := by
    intro continuation member
    rcases States.mem_stateOf.mp member with rfl | old
    · exact ⟨run.mode, accounted.sound.holds, rfl, leaves⟩
    · exact accounted.accounts continuation old
  current := ⟨restart, States.continuationOf_stateOf ..⟩

theorem Accounted.step (accounted : run.Accounted) : run.step.Accounted :=
  ⟨step_repeats.sound accounted.sound, accounted.accounts, accounted.current⟩

/-- More modes that are known make no difference. -/
theorem Accounted.grown (accounted : run.Accounted) {canvas : Canvas}
    (settled : canvas.registry.Settled []) (grows : run.canvas.registry.GrowsTo canvas.registry)
    (switched : Option LanguageSwitch) : Accounted { run with canvas, switched } where
  sound :=
    ⟨settled, accounted.sound.holds.mono grows, fun continuation member =>
      (accounted.sound.knows continuation member).mono grows, accounted.sound.stands⟩
  accounts := fun continuation member => (accounted.accounts continuation member).mono grows
  current := accounted.current

theorem Accounted.paint (accounted : run.Accounted) (line : List Char) (painting : Painting) :
    (run.paint options line painting).Accounted := by
  have repeats := paintCanvas_repeats options line painting
  unfold Run.paint
  split
  · exact accounted
  · exact accounted.grown (repeats.settled accounted.sound.settled)
      (repeats.grows accounted.sound.settled) run.switched

theorem Accounted.switchLanguage (accounted : run.Accounted) (name : String) :
    (run.switchLanguage name).Accounted := by
  have settled := Registry.resolve_settled accounted.sound.settled name
  have grows := Registry.resolve_growsTo accounted.sound.settled name
  rw [switchLanguage_eq]
  split
  · exact accounted.grown accounted.sound.settled (.refl _) _
  · split
    · exact accounted.grown settled grows _
    · have entered :
          ({ (run.entered name).close with switched := some ⟨name, true⟩ } : Run).Sound :=
        (close_repeats.sound (accounted.sound.entered name)).switched _
      refine ⟨entered, ?_, .clear, States.continuationOf_stateOf ..⟩
      intro continuation member
      rcases States.mem_stateOf.mp member with rfl | old
      · exact ⟨(run.entered name).mode, (accounted.sound.entered name).holds, rfl, trivial⟩
      · exact (accounted.accounts continuation old).mono grows

/-- Actions that a verdict of the mode in force asks for keep all accounted for. -/
theorem Accounted.performAll (line : List Char) {actions : List Action} :
    ∀ {run : Run}, run.Accounted → Asks run.mode actions →
      (run.performAll options line actions).Accounted := by
  induction actions with
  | nil => exact fun accounted _ => accounted
  | cons action actions ih =>
    intro run accounted asks
    show (Run.performAll options line (run.perform options line action) actions).Accounted
    cases action with
    | paint painting =>
      have sameMode : (run.paint options line painting).mode = run.mode := by
        unfold Run.paint
        split <;> rfl
      apply ih (accounted.paint options line painting)
      exact sameMode.symm ▸ asks.tail
    | arm restart =>
      have leaves : run.mode.MayLeave restart := by
        cases restart with
        | span form => exact asks.leaves form List.mem_cons_self
        | _ => exact trivial
      exact ih (accounted.toState leaves restart.suppressesColor) asks.tail
    | close =>
      have leaves : run.mode.MayLeave .clear := trivial
      exact ih (accounted.toState leaves false) asks.tail
    | switchLanguage name => exact ih (accounted.switchLanguage name) (asks.tail_of_switch _)

theorem Accounted.dispatch (line : List Char) (rest : List Char) :
    ∀ (column skip : Nat) {run : Run}, run.Accounted →
      (dispatch options line column skip run rest).Accounted := by
  induction rest with
  | nil => exact fun _ _ _ accounted => accounted
  | cons c rest ih =>
    intro column skip run accounted
    cases skip with
    | succ skip => exact ih (column + 1) skip accounted
    | zero =>
      have stepped := accounted.step
      have asks : Asks run.step.mode
          (firstVerdict run.mode line column (run.mode.matchersAt c)).actions :=
        firstVerdict_asks c
      rw [dispatch_cons]
      generalize firstVerdict run.mode line column (run.mode.matchersAt c) = verdict at asks ⊢
      cases verdict with
      | declined => exact ih (column + 1) 0 stepped
      | passed width => exact ih (column + 1) (width - 1) stepped
      | taken width actions =>
        exact ih (column + 1) (width - 1) (Accounted.performAll options line stepped asks)
      | endsLine actions => exact Accounted.performAll options line stepped asks

/-- A whole line, started from what the mode in force may have left, keeps all accounted for. -/
theorem Accounted.start (accounted : run.Accounted) (line : List Char) {restart : Restart}
    (own : run.mode.MayLeave restart) : (run.start options line restart).Accounted := by
  have stepped := accounted.step
  have asks : Asks run.step.mode (resume run.mode line restart).actions := resume_asks own
  rw [start_eq]
  generalize resume run.mode line restart = resumption at asks ⊢
  cases resumption with
  | done actions => exact Accounted.performAll options line stepped asks
  | «at» column actions =>
    exact Accounted.dispatch options line _ column 0
      (Accounted.performAll options line stepped asks)

end Run

end Line

end Highlighter
