import Highlighter.Proofs.Line.Composing
import Highlighter.Proofs.Registry.Settled
import Highlighter.Proofs.States

/-!
# Doing a line's work again

Whatever a line does looks modes up in a registry and continuations among states, and adds to both
what it did not find.  Done again with all that it added before, and whatever was added since, it
finds everything: it comes to the same and adds nothing.  `Canvas.Repeats` and `Run.Repeats` say so
of one piece of work, together with the invariants that the work rests on; pieces in a row repeat if
each of them does.
-/

namespace Highlighter.Line

/-! ## Canvases -/

namespace Canvas

/-- Work on a canvas that only adds modes, and repeats wherever these are known. -/
structure Repeats (work : Canvas → Canvas) : Prop where
  settled : ∀ {canvas : Canvas}, canvas.registry.Settled [] → (work canvas).registry.Settled []
  grows : ∀ {canvas : Canvas},
    canvas.registry.Settled [] → canvas.registry.GrowsTo (work canvas).registry
  again : ∀ {canvas : Canvas}, canvas.registry.Settled [] → ∀ later : Registry,
    (work canvas).registry.GrowsTo later →
    work { canvas with registry := later } = { work canvas with registry := later }

theorem Repeats.id : Repeats fun canvas => canvas where
  settled := fun settled => settled
  grows := fun _ => .refl _
  again := fun _ _ _ => rfl

/-- Two pieces of work in a row repeat if both do. -/
theorem Repeats.comp {first second : Canvas → Canvas} (one : Repeats first)
    (two : Repeats second) : Repeats fun canvas => second (first canvas) where
  settled := fun settled => two.settled (one.settled settled)
  grows := fun settled => (one.grows settled).trans (two.grows (one.settled settled))
  again := by
    intro canvas settled later grows
    have between := two.grows (one.settled settled)
    rw [one.again settled later (between.trans grows), two.again (one.settled settled) later grows]

/-- Work on the marks alone repeats. -/
theorem Repeats.of_marks (work : List Mark → List Mark) :
    Repeats fun canvas => { canvas with marks := work canvas.marks } where
  settled := fun settled => settled
  grows := fun _ => .refl _
  again := fun _ _ _ => rfl

theorem add_repeats (line : List Char) (start stop : Nat) (tag : Tag) :
    Repeats (add line start stop tag) := by
  unfold add
  by_cases nothing : min stop line.length ≤ start ∨ tag = .null
  · simp only [nothing, if_true]
    exact .id
  · simp only [nothing, if_false]
    exact .of_marks (· ++ [⟨start, min stop line.length, tag⟩])

/-- Resolving a name and going on with its mode repeats if what follows does. -/
theorem Repeats.resolving (name : String) {work : Mode → Canvas → Canvas}
    (each : ∀ mode, Repeats (work mode)) :
    Repeats fun canvas =>
      work (canvas.registry.resolve name).1
        { canvas with registry := (canvas.registry.resolve name).2 } where
  settled := fun settled => (each _).settled (Registry.resolve_settled settled name)
  grows := by
    intro canvas settled
    let resolved : Canvas := { canvas with registry := (canvas.registry.resolve name).2 }
    have resolvedSettled : resolved.registry.Settled [] := Registry.resolve_settled settled name
    exact (Registry.resolve_growsTo settled name).trans ((each _).grows resolvedSettled)
  again := by
    intro canvas settled later grows
    let resolved : Canvas := { canvas with registry := (canvas.registry.resolve name).2 }
    have resolvedSettled : resolved.registry.Settled [] := Registry.resolve_settled settled name
    have between : resolved.registry.GrowsTo later :=
      ((each (canvas.registry.resolve name).1).grows resolvedSettled).trans grows
    have sameLibrary : later.library = canvas.registry.library :=
      between.library.trans (Registry.resolve_growsTo settled name).library
    have kept := between.modes (Registry.get?_resolve settled name)
    rw [← sameLibrary] at kept
    simp only [Registry.resolve_of_kept kept]
    exact (each _).again resolvedSettled later grows

/-- So whatever tags a range repeats. -/
theorem repeats_composes (line : List Char) : Composes line Repeats :=
  ⟨.id, .comp, add_repeats line, fun name => .resolving name⟩

end Canvas

end Highlighter.Line

/-! ## Modes that are held -/

namespace Highlighter.Registry

/-- A mode is kept under its own identifier, or is the one in force before a language is set. -/
def Holds (registry : Registry) (mode : Mode) : Prop :=
  registry.get? mode.ruleset = some mode ∨ mode = .unknown .noLanguage

/-- An identifier is that of a mode that is kept, or the one in force before a language is set. -/
def Knows (registry : Registry) (id : RulesetId) : Prop :=
  (∃ mode, registry.get? id = some mode) ∨ id = .noLanguage

variable {registry later : Registry}

theorem Holds.mono {mode : Mode} (holds : registry.Holds mode) (grows : registry.GrowsTo later) :
    later.Holds mode :=
  holds.imp grows.modes id

theorem Knows.mono {id : RulesetId} (knows : registry.Knows id) (grows : registry.GrowsTo later) :
    later.Knows id :=
  knows.imp (fun ⟨mode, kept⟩ => ⟨mode, grows.modes kept⟩) fun same => same

theorem Holds.knows {mode : Mode} (holds : registry.Holds mode) : registry.Knows mode.ruleset :=
  holds.imp (fun kept => ⟨mode, kept⟩) fun same => congrArg Mode.ruleset same

/-- The mode before a language is set has no matchers, so a mode that lists one is kept. -/
theorem Holds.kept_of_listed {mode : Mode} (holds : registry.Holds mode) {c : Char}
    {matcher : Matcher} (listed : matcher ∈ mode.matchersAt c) :
    registry.get? mode.ruleset = some mode := by
  rcases holds with kept | rfl
  · exact kept
  · exact absurd listed List.not_mem_nil

/-- The mode of a name is held once the name is resolved. -/
theorem holds_resolve (settled : registry.Settled []) (name : String) :
    (registry.resolve name).2.Holds (registry.resolve name).1 :=
  .inl ((resolve_settled settled name).own (get?_resolve settled name))

end Highlighter.Registry

/-! ## Runs -/

namespace Highlighter.Line.Run

/-- The registry keeps modes under their own identifiers, the mode in force and those of all states
among them, and the state that the line would leave stands for something. -/
structure Sound (run : Run) : Prop where
  settled : run.canvas.registry.Settled []
  holds : run.canvas.registry.Holds run.mode
  knows : ∀ continuation ∈ run.states.continuations,
    run.canvas.registry.Knows continuation.ruleset
  stands : ∃ continuation, run.states.continuationOf run.state = .ok (some continuation)

/-- The run with other modes and states known. -/
def within (registry : Registry) (states : States) (run : Run) : Run :=
  { run with canvas := { run.canvas with registry }, states }

/-- Work on a run that only adds modes and states, and repeats wherever these are known. -/
structure Repeats (work : Run → Run) : Prop where
  sound : ∀ {run : Run}, run.Sound → (work run).Sound
  modes : ∀ {run : Run}, run.Sound → run.canvas.registry.GrowsTo (work run).canvas.registry
  states : ∀ {run : Run}, run.Sound → run.states.GrowsTo (work run).states
  again : ∀ {run : Run}, run.Sound → ∀ (registry : Registry) (states : States),
    (work run).canvas.registry.GrowsTo registry → (work run).states.GrowsTo states →
    work (run.within registry states) = (work run).within registry states

theorem Repeats.id : Repeats fun run => run where
  sound := fun sound => sound
  modes := fun _ => .refl _
  states := fun _ => .refl _
  again := fun _ _ _ _ _ => rfl

theorem Repeats.comp {first second : Run → Run} (one : Repeats first) (two : Repeats second) :
    Repeats fun run => second (first run) where
  sound := fun sound => two.sound (one.sound sound)
  modes := fun sound => (one.modes sound).trans (two.modes (one.sound sound))
  states := fun sound => (one.states sound).trans (two.states (one.sound sound))
  again := by
    intro run sound registry states modesGrow statesGrow
    have between := one.sound sound
    rw [one.again sound registry states ((two.modes between).trans modesGrow)
      ((two.states between).trans statesGrow),
      two.again between registry states modesGrow statesGrow]

theorem Repeats.foldl {α : Type} {work : Run → α → Run} (items : List α)
    (each : ∀ item, Repeats (work · item)) : Repeats fun run => items.foldl work run := by
  induction items with
  | nil => exact .id
  | cons item items ih => exact (each item).comp ih

/-- Work that depends on what a run is like apart from the modes and states known repeats if it
does in each case. -/
theorem Repeats.reading {α : Type} (read : Run → α)
    (same : ∀ run registry states, read (within registry states run) = read run)
    (work : α → Run → Run) (each : ∀ value, Repeats (work value)) :
    Repeats fun run => work (read run) run where
  sound := fun sound => (each _).sound sound
  modes := fun sound => (each _).modes sound
  states := fun sound => (each _).states sound
  again := by
    intro run sound registry states modesGrow statesGrow
    rw [same]
    exact (each _).again sound registry states modesGrow statesGrow

theorem Repeats.of_canvas {work : Canvas → Canvas} (repeats : Canvas.Repeats work) :
    Repeats fun run => { run with canvas := work run.canvas } where
  sound := fun sound => {
    settled := repeats.settled sound.settled
    holds := sound.holds.mono (repeats.grows sound.settled)
    knows := fun continuation member =>
      (sound.knows continuation member).mono (repeats.grows sound.settled)
    stands := sound.stands }
  modes := fun sound => repeats.grows sound.settled
  states := fun _ => .refl _
  again := by
    intro run sound registry states modesGrow _
    simp only [within, repeats.again sound.settled registry modesGrow]

theorem paintCanvas_repeats (options : Options) (line : List Char) (painting : Painting) :
    Canvas.Repeats (paintCanvas options line painting) :=
  (Canvas.repeats_composes line).paintCanvas options painting

theorem paint_repeats (options : Options) (line : List Char) (painting : Painting) :
    Repeats (paint options line painting) := by
  refine .reading (·.suppressed) (fun _ _ _ => rfl) (fun suppressed run =>
    if suppressed then run else { run with canvas := paintCanvas options line painting run.canvas })
    ?_
  intro suppressed
  cases suppressed with
  | true => exact .id
  | false => exact .of_canvas (paintCanvas_repeats options line painting)

/-- Giving a continuation of the ruleset in force its state repeats. -/
theorem toState_repeats (restart : Restart) (suppressed : Bool) :
    Repeats fun run => { run with
      state := (run.states.stateOf ⟨run.mode.ruleset, restart⟩).1
      states := (run.states.stateOf ⟨run.mode.ruleset, restart⟩).2
      suppressed } where
  sound := by
    intro run sound
    refine ⟨sound.settled, sound.holds, ?_, _, States.continuationOf_stateOf ..⟩
    intro continuation member
    rcases States.mem_stateOf.mp member with rfl | member
    · exact sound.holds.knows
    · exact sound.knows continuation member
  modes := fun _ => .refl _
  states := fun _ => States.stateOf_growsTo ..
  again := by
    intro run _ registry states _ grows
    simp only [within, grows.stateOf]

theorem arm_repeats (restart : Restart) : Repeats (arm restart) :=
  toState_repeats restart restart.suppressesColor

theorem close_repeats : Repeats close :=
  toState_repeats .clear false

/-- The run once a name is looked up. -/
def found (name : String) (run : Run) : Run :=
  { run with canvas := { run.canvas with registry := (run.canvas.registry.resolve name).2 } }

/-- The run once the mode of a name is in force. -/
def entered (name : String) (run : Run) : Run :=
  { run.found name with mode := (run.canvas.registry.resolve name).1 }

theorem Sound.found {run : Run} (sound : run.Sound) (name : String) : (run.found name).Sound where
  settled := Registry.resolve_settled sound.settled name
  holds := sound.holds.mono (Registry.resolve_growsTo sound.settled name)
  knows := fun continuation member =>
    (sound.knows continuation member).mono (Registry.resolve_growsTo sound.settled name)
  stands := sound.stands

theorem Sound.entered {run : Run} (sound : run.Sound) (name : String) :
    (run.entered name).Sound :=
  { sound.found name with holds := Registry.holds_resolve sound.settled name }

/-- The mode of a name comes into force if the name has a ruleset. -/
theorem switchLanguage_eq (name : String) (run : Run) :
    run.switchLanguage name =
      if name = "" then { run with switched := some ⟨name, false⟩ }
      else if (run.canvas.registry.resolve name).1.isUnknown then
        { run.found name with switched := some ⟨name, false⟩ }
      else { (run.entered name).close with switched := some ⟨name, true⟩ } := by
  unfold switchLanguage Registry.resolve?
  by_cases empty : name = ""
  · simp only [if_pos empty]
    rfl
  · simp only [if_neg empty]
    cases (run.canvas.registry.resolve name).1.isUnknown <;> rfl

/-- Which languages a line asked for makes no difference to its soundness. -/
theorem Sound.switched {run : Run} (sound : run.Sound) (switched : Option LanguageSwitch) :
    { run with switched }.Sound :=
  ⟨sound.settled, sound.holds, sound.knows, sound.stands⟩

theorem switchLanguage_repeats (name : String) : Repeats (switchLanguage name) where
  sound := by
    intro run sound
    rw [switchLanguage_eq]
    split
    · exact sound.switched _
    · split
      · exact (sound.found name).switched _
      · exact (close_repeats.sound (sound.entered name)).switched _
  modes := by
    intro run sound
    rw [switchLanguage_eq]
    split
    · exact .refl _
    · split <;> exact Registry.resolve_growsTo sound.settled name
  states := by
    intro run sound
    rw [switchLanguage_eq]
    split
    · exact .refl _
    · split
      · exact .refl _
      · exact close_repeats.states (sound.entered name)
  again := by
    intro run sound registry states modes grows
    rw [switchLanguage_eq] at modes grows
    simp only [switchLanguage_eq]
    by_cases empty : name = ""
    · simp only [if_pos empty]
      rfl
    · simp only [if_neg empty] at modes grows ⊢
      have found : (run.found name).canvas.registry.GrowsTo registry := by
        split at modes <;> exact modes
      have kept : registry.get? (ModeName.ofText registry.library name).id =
          some (run.canvas.registry.resolve name).1 := by
        rw [found.library.trans (Registry.resolve_growsTo sound.settled name).library]
        exact found.modes (Registry.get?_resolve sound.settled name)
      have resolved : (run.within registry states).canvas.registry.resolve name =
          ((run.canvas.registry.resolve name).1, registry) := Registry.resolve_of_kept kept
      simp only [Run.found, Run.entered, resolved]
      split at modes
      · rename_i unknown
        simp only [if_pos unknown]
        rfl
      · rename_i known
        rw [if_neg known] at grows
        simp only [if_neg known]
        have closed := close_repeats.again (sound.entered name) registry states modes grows
        exact congrArg (fun run : Run => { run with switched := some ⟨name, true⟩ }) closed

theorem perform_repeats (options : Options) (line : List Char) (action : Action) :
    Repeats (perform options line · action) := by
  cases action with
  | paint painting => exact paint_repeats options line painting
  | arm restart => exact arm_repeats restart
  | close => exact close_repeats
  | switchLanguage name => exact switchLanguage_repeats name

theorem performAll_repeats (options : Options) (line : List Char) (actions : List Action) :
    Repeats (performAll options line · actions) :=
  .foldl actions (perform_repeats options line)

theorem step_repeats : Repeats step where
  sound := fun sound => ⟨sound.settled, sound.holds, sound.knows, sound.stands⟩
  modes := fun _ => .refl _
  states := fun _ => .refl _
  again := fun _ _ _ _ _ => rfl

/-- The rest of a line by the verdict on its first character. -/
def heed (options : Options) (line : List Char) (column : Nat) (rest : List Char)
    (verdict : Verdict) (run : Run) : Run :=
  match verdict with
  | .declined => dispatch options line (column + 1) 0 run rest
  | .passed width => dispatch options line (column + 1) (width - 1) run rest
  | .taken width actions =>
    dispatch options line (column + 1) (width - 1) (run.performAll options line actions) rest
  | .endsLine actions => run.performAll options line actions

theorem dispatch_cons (options : Options) (line : List Char) (column : Nat) (run : Run) (c : Char)
    (rest : List Char) :
    dispatch options line column 0 run (c :: rest) = heed options line column rest
      (firstVerdict run.mode line column (run.mode.matchersAt c)) run.step := rfl

theorem dispatch_repeats (options : Options) (line : List Char) (rest : List Char) :
    ∀ column skip : Nat, Repeats (dispatch options line column skip · rest) := by
  induction rest with
  | nil => exact fun _ _ => .id
  | cons c rest ih =>
    intro column skip
    cases skip with
    | succ skip => exact ih (column + 1) skip
    | zero =>
      simp only [dispatch_cons]
      refine step_repeats.comp (.reading
        (fun run => firstVerdict run.mode line column (run.mode.matchersAt c))
        (fun _ _ _ => rfl) (heed options line column rest) ?_)
      intro verdict
      cases verdict with
      | declined => exact ih (column + 1) 0
      | passed width => exact ih (column + 1) (width - 1)
      | taken width actions =>
        exact (performAll_repeats options line actions).comp (ih (column + 1) (width - 1))
      | endsLine actions => exact performAll_repeats options line actions

/-- A line by what becomes of it at its start. -/
def goOn (options : Options) (line : List Char) (resumption : Resumption) (run : Run) : Run :=
  match resumption with
  | .done actions => run.performAll options line actions
  | .at column actions =>
    dispatch options line column 0 (run.performAll options line actions) (line.drop column)

theorem start_eq (options : Options) (line : List Char) (restart : Restart) (run : Run) :
    start options line restart run = goOn options line (resume run.mode line restart) run.step :=
  rfl

/-- A whole line repeats. -/
theorem start_repeats (options : Options) (line : List Char) (restart : Restart) :
    Repeats (start options line restart) := by
  have repeats : Repeats fun run =>
      goOn options line (resume run.mode line restart) run.step := by
    refine step_repeats.comp (.reading (fun run => resume run.mode line restart)
      (fun _ _ _ => rfl) (goOn options line) ?_)
    intro resumption
    cases resumption with
    | done actions => exact performAll_repeats options line actions
    | «at» column actions =>
      exact (performAll_repeats options line actions).comp
        (dispatch_repeats options line (line.drop column) column 0)
  exact repeats

end Highlighter.Line.Run
