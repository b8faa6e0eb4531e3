import Highlighter.Proofs.Line.Inserting
import Highlighter.Proofs.Line.LineStart
import Highlighter.Proofs.Registry.Growth

/-!
# Delegated ranges on the line at work

While a delegated range is gone through, the rules of the delegate work on the same line as those of
the line's own mode.  What they find could leave a span open, close what is open or change the
language.  `NestedRun` is a line at work that knows how many delegated ranges it is inside of, and
`tagRange` goes through a range on it as a whole: each match does to it all that it asks for, and
the only guard is the depth.

It turns out that nothing but marks and modes comes of it, just as `delegate` has it, which works on
nothing else: inside of a range, what leaves something open or closes it does nothing, and what
changes the language is never asked for.
-/

namespace Highlighter.Line

/-- A line at work, inside of so many delegated ranges (`LineRun` with its `depth`). -/
structure NestedRun extends Run where
  depth : Nat

namespace NestedRun

/-- Tags a range, unless nothing is tagged for now. -/
def mark (line : List Char) (start stop : Nat) (tag : Tag) (run : NestedRun) : NestedRun :=
  if run.suppressed then run else { run with canvas := run.canvas.add line start stop tag }

/-- Tags the text that no rule matched, in front of the marks from a position on. -/
def fillAt (line : List Char) (fallback : Tag) (unclaimed : Option Nat) (position stop : Nat)
    (run : NestedRun) : NestedRun :=
  if run.suppressed then run
  else { run with canvas := run.canvas.fillAt line fallback unclaimed position stop }

/-- Leaves something open, which only the line's own mode may do (`LineRun.set_restart`). -/
def arm (restart : Restart) (run : NestedRun) : NestedRun :=
  if 0 < run.depth then run else { run with toRun := run.toRun.arm restart }

/-- Leaves nothing open, which only the line's own mode may do (`LineRun.clear_state`). -/
def close (run : NestedRun) : NestedRun :=
  if 0 < run.depth then run else { run with toRun := run.toRun.close }

/-- Brings the rules of a language into force, if there are any (`LineRun.switch_language`). -/
def switchLanguage (name : String) (run : NestedRun) : NestedRun :=
  let (mode?, registry) :=
    if name = "" then (none, run.canvas.registry) else run.canvas.registry.resolve? name
  let run := { run with canvas := { run.canvas with registry } }
  let run :=
    match mode? with
    | some mode => close { run with mode }
    | none => run
  { run with switched := some ⟨name, mode?.isSome⟩ }

/-- A way to go through a range under the rules of a mode. -/
abbrev Delegating := (name : String) → (start stop : Nat) → (fallback : Tag) →
  NestedRun → NestedRun

/-- Tags a range, and on the line itself the addresses in it, unless nothing is tagged for now
(`LineRun.color_range`). -/
def paint (options : Options) (line : List Char) (delegating : Delegating) (painting : Painting)
    (run : NestedRun) : NestedRun :=
  if run.suppressed then run
  else
    let stop := min painting.stop line.length
    let run :=
      match painting.delegate with
      | some name => delegating name painting.start stop painting.tag run
      | none => if painting.silent then run else run.mark line painting.start stop painting.tag
    if painting.tag ≠ .url ∧ run.depth = 0 ∧ options.highlightUrls then
      (Url.findIn line painting.start stop).foldl
        (fun run (first, last) => run.mark line first last .url) run
    else run

/-- Performs one action. -/
def perform (options : Options) (line : List Char) (delegating : Delegating) (run : NestedRun) :
    Action → NestedRun
  | .paint painting => run.paint options line delegating painting
  | .arm restart => run.arm restart
  | .close => run.close
  | .switchLanguage name => run.switchLanguage name

/-- Performs actions in order. -/
def performAll (options : Options) (line : List Char) (delegating : Delegating) (run : NestedRun)
    (actions : List Action) : NestedRun :=
  actions.foldl (perform options line delegating) run

/-- Tries matchers until one finds something, and does what that one asks for (the matchers in
`LineRun.run_range`).  A token that is not to be tagged is nothing.  The answer is how much of the
line is taken. -/
def tryAll (options : Options) (line : List Char) (delegating : Delegating) (mode : Mode)
    (column : Nat) (run : NestedRun) : List Matcher → Option Nat × NestedRun
  | [] => (none, run)
  | matcher :: matchers =>
    match matcherVerdict mode line column (0 < run.depth) matcher with
    | .taken width actions => (some width, run.performAll options line delegating actions)
    | .endsLine actions =>
      (some (line.length - column), run.performAll options line delegating actions)
    | _ => tryAll options line delegating mode column run matchers

/-- Goes through the rest of a range, and puts a filler in once a match is tagged (the loop of
`LineRun.run_range`). -/
def tagRest (options : Options) (line : List Char) (mode : Mode) (fallback : Tag)
    (delegating : Delegating) (stop column skip : Nat) (unclaimed : Option Nat) (run : NestedRun) :
    (rest : List Char) → NestedRun
  | [] => run.fillAt line fallback unclaimed run.canvas.marks.length (min column stop)
  | c :: rest =>
    match skip with
    | skip + 1 =>
      tagRest options line mode fallback delegating stop (column + 1) skip unclaimed run rest
    | 0 =>
      if stop ≤ column then
        run.fillAt line fallback unclaimed run.canvas.marks.length (min column stop)
      else
        let position := run.canvas.marks.length
        match run.tryAll options line delegating mode column (mode.matchersAt c) with
        | (none, run) =>
          tagRest options line mode fallback delegating stop (column + 1) 0
            (some (unclaimed.getD column)) run rest
        | (some width, run) =>
          tagRest options line mode fallback delegating stop (column + 1) (width - 1) none
            (run.fillAt line fallback unclaimed position column) rest

/-- Comes to be inside of a further range, which the mode of a name is asked for. -/
def enter (name : String) (run : NestedRun) : NestedRun :=
  { run with
    canvas := { run.canvas with registry := (run.canvas.registry.resolve name).2 }
    depth := run.depth + 1 }

@[simp] theorem enter_depth (name : String) (run : NestedRun) :
    (run.enter name).depth = run.depth + 1 := rfl

/-- Is done with a range. -/
def leave (run : NestedRun) : NestedRun :=
  { run with depth := run.depth - 1 }

/-- Goes through a range under the rules of a mode, unless the line is inside of as many ranges as
there may be.  There is `room` for the range and those that come to be inside of it. -/
def tagRangeWithin (options : Options) (line : List Char) : (room : Nat) → Delegating
  | 0 => fun _ _ _ _ run => run
  | room + 1 => fun name start stop fallback run =>
    if options.maxDelegationDepth ≤ run.depth then run.mark line start stop fallback
    else
      let mode := (run.canvas.registry.resolve name).1
      (tagRest options line mode (mode.defaultTag.getD fallback)
        (tagRangeWithin options line room) stop start 0 none (run.enter name)
        (line.drop start)).leave

/-- Goes through a range under the rules of a mode, unless the line is inside of as many ranges as
there may be (`LineRun.run_range`). -/
def tagRange (options : Options) (line : List Char) : Delegating :=
  tagRangeWithin options line (options.maxDelegationDepth + 1)

theorem tagRangeWithin_succ (options : Options) (line : List Char) (room : Nat) (name : String)
    (start stop : Nat) (fallback : Tag) (run : NestedRun) :
    tagRangeWithin options line (room + 1) name start stop fallback run =
      if options.maxDelegationDepth ≤ run.depth then run.mark line start stop fallback
      else
        let mode := (run.canvas.registry.resolve name).1
        (tagRest options line mode (mode.defaultTag.getD fallback)
          (tagRangeWithin options line room) stop start 0 none (run.enter name)
          (line.drop start)).leave := rfl

/-! ## Inside of a range -/

variable {options : Options} {line : List Char} {mode : Mode} {delegating : Delegating}
  {delegation : Delegation} {run : NestedRun}

/-- A run with other marks and modes. -/
def withCanvas (run : NestedRun) (canvas : Canvas) : NestedRun :=
  { run with canvas }

/-- A range that is delegated further is tagged as on a canvas, on every run of a depth on which
ranges are tagged. -/
def TagsCanvas (delegating : Delegating) (delegation : Delegation) (depth : Nat) : Prop :=
  ∀ name start stop fallback (run : NestedRun), run.depth = depth → run.suppressed = false →
    delegating name start stop fallback run =
      run.withCanvas (delegation name start stop fallback run.canvas)

/-- In a delegated range only what rules ask for is asked for. -/
theorem matcherVerdict_ordinary (mode : Mode) (line : List Char) (column : Nat)
    (matcher : Matcher) : AllOrdinary (matcherVerdict mode line column true matcher).actions := by
  cases matcher with
  | rule rule => exact (ruleVerdict_ofRule mode line column rule).ordinary
  | directive directive =>
    cases directive with
    | leoKeywords => exact (leoKeywordsVerdict_paintsAlone mode line column).ordinary
    | sectionRef => exact (sectionRefVerdict_paintsAlone line column).ordinary
    | url => exact (urlVerdict_paintsAlone mode line column true).ordinary
    | _ =>
      rw [matcherVerdict, directiveVerdict, Bool.not_true, Bool.and_false]
      · exact allOrdinary_nil
      all_goals rintro ⟨⟩

/-- A range is tagged as on a canvas; addresses are only looked for on the line itself. -/
theorem paint_inside (tags : TagsCanvas delegating delegation run.depth) (inside : 0 < run.depth)
    (on : run.suppressed = false) (painting : Painting) :
    run.paint options line delegating painting =
      run.withCanvas (run.canvas.paint line delegation painting) := by
  have elsewhere : run.depth ≠ 0 := Nat.ne_of_gt inside
  have tagged : ¬run.suppressed = true := by simp [on]
  unfold paint Canvas.paint
  rw [if_neg tagged]
  cases painting.delegate with
  | some name => simp [tags _ _ _ _ run rfl on, withCanvas, elsewhere]
  | none =>
    cases painting.silent with
    | true => simp [withCanvas, elsewhere]
    | false => simp [mark, withCanvas, elsewhere, if_neg tagged]

theorem perform_inside (tags : TagsCanvas delegating delegation run.depth) (inside : 0 < run.depth)
    (on : run.suppressed = false) {action : Action} (ordinary : action.Ordinary) :
    run.perform options line delegating action =
      run.withCanvas (run.canvas.paintAll line delegation action.painting?.toList) := by
  cases action with
  | paint painting => exact paint_inside tags inside on painting
  | arm restart => exact if_pos inside
  | close => exact if_pos inside
  | switchLanguage name => cases ordinary

/-- Of all that is asked for, only the ranges that are tagged count. -/
theorem performAll_inside {actions : List Action} (ordinary : AllOrdinary actions) :
    ∀ {run : NestedRun}, TagsCanvas delegating delegation run.depth → 0 < run.depth →
    run.suppressed = false → run.performAll options line delegating actions =
      run.withCanvas (run.canvas.paintAll line delegation
        (actions.filterMap Action.painting?)) := by
  induction actions with
  | nil => exact fun _ _ _ => rfl
  | cons action actions ih =>
    intro run tags inside on
    have first : run.perform options line delegating action =
        run.withCanvas (run.canvas.paintAll line delegation action.painting?.toList) :=
      perform_inside tags inside on (ordinary action List.mem_cons_self)
    have others := @ih (fun other member => ordinary other (List.mem_cons_of_mem _ member))
      (run.withCanvas (run.canvas.paintAll line delegation action.painting?.toList))
      tags inside on
    rw [performAll, List.foldl_cons, first, ← performAll, others]
    cases asked : action.painting? with
    | none => rw [List.filterMap_cons_none asked]; rfl
    | some painting => rw [List.filterMap_cons_some asked]; rfl

theorem tryAll_inside (tags : TagsCanvas delegating delegation run.depth) (inside : 0 < run.depth)
    (on : run.suppressed = false) (mode : Mode) (column : Nat) (matchers : List Matcher) :
    run.tryAll options line delegating mode column matchers =
      match firstClaim? mode line column matchers with
      | none => (none, run)
      | some (width, paintings) =>
        (some width, run.withCanvas (run.canvas.paintAll line delegation paintings)) := by
  induction matchers with
  | nil => rfl
  | cons matcher matchers ih =>
    have ordinary := matcherVerdict_ordinary mode line column matcher
    rw [tryAll, firstClaim?, decide_eq_true inside]
    cases verdict : matcherVerdict mode line column true matcher with
    | declined => exact ih
    | passed width => exact ih
    | taken width actions =>
      rw [verdict] at ordinary
      exact congrArg (Prod.mk (some width)) (performAll_inside ordinary tags inside on)
    | endsLine actions =>
      rw [verdict] at ordinary
      exact congrArg (Prod.mk (some (line.length - column)))
        (performAll_inside ordinary tags inside on)

theorem fillAt_inside (on : run.suppressed = false) (fallback : Tag) (unclaimed : Option Nat)
    (position stop : Nat) : run.fillAt line fallback unclaimed position stop =
      run.withCanvas (run.canvas.fillAt line fallback unclaimed position stop) := by
  simp [fillAt, on, withCanvas]

/-- A range is gone through as on a canvas. -/
theorem tagRest_inside (mode : Mode) (fallback : Tag) (stop : Nat) (rest : List Char) :
    ∀ (column skip : Nat) (unclaimed : Option Nat) {run : NestedRun},
    TagsCanvas delegating delegation run.depth → 0 < run.depth → run.suppressed = false →
    tagRest options line mode fallback delegating stop column skip unclaimed run rest =
      run.withCanvas (Canvas.tagRestInserting line mode fallback delegation stop column skip
        unclaimed run.canvas rest) := by
  induction rest with
  | nil => exact fun column skip unclaimed run _ _ on => fillAt_inside on fallback unclaimed _ _
  | cons c rest ih =>
    intro column skip unclaimed run tags inside on
    cases skip with
    | succ skip => exact ih (column + 1) skip unclaimed tags inside on
    | zero =>
      rw [tagRest, Canvas.tagRestInserting]
      by_cases past : stop ≤ column
      · rw [if_pos past, if_pos past]
        exact fillAt_inside on fallback unclaimed _ _
      · rw [if_neg past, if_neg past]
        simp only [tryAll_inside tags inside on]
        cases firstClaim? mode line column (mode.matchersAt c) with
        | none => exact ih (column + 1) 0 (some (unclaimed.getD column)) tags inside on
        | some claim =>
          have claimed : (run.withCanvas (run.canvas.paintAll line delegation
              claim.2)).suppressed = false := on
          simp only [fillAt_inside claimed]
          exact ih (column + 1) (claim.1 - 1) none tags inside on

/-- A range is tagged as it is on the canvas alone, with the delegations that are left. -/
theorem tagRangeWithin_eq (options : Options) (line : List Char) (room : Nat) :
    ∀ (name : String) (start stop : Nat) (fallback : Tag) {run : NestedRun},
    run.suppressed = false → options.maxDelegationDepth - run.depth < room →
    tagRangeWithin options line room name start stop fallback run =
      run.withCanvas (delegateInserting line (options.maxDelegationDepth - run.depth) name start
        stop fallback run.canvas) := by
  induction room with
  | zero => exact fun _ _ _ _ _ _ enough => absurd enough (Nat.not_lt_zero _)
  | succ room ih =>
    intro name start stop fallback run on enough
    rw [tagRangeWithin_succ]
    by_cases deep : options.maxDelegationDepth ≤ run.depth
    · rw [if_pos deep, Nat.sub_eq_zero_of_le deep]
      simp [mark, on, withCanvas, delegateInserting]
    · have left : options.maxDelegationDepth - run.depth =
          options.maxDelegationDepth - (run.depth + 1) + 1 := by omega
      have tags : TagsCanvas (tagRangeWithin options line room)
          (delegateInserting line (options.maxDelegationDepth - (run.depth + 1)))
          (run.enter name).depth := by
        intro name start stop fallback later same on
        rw [enter_depth] at same
        rw [ih name start stop fallback on (by omega), same]
      rw [if_neg deep, left]
      dsimp only
      rw [tagRest_inside _ _ _ _ _ _ _ tags (Nat.succ_pos _) on]
      rfl

/-- A range is tagged as `delegate` has it, as deep as the run leaves room for. -/
theorem tagRange_eq (options : Options) (line : List Char) (name : String) (start stop : Nat)
    (fallback : Tag) (on : run.suppressed = false) :
    tagRange options line name start stop fallback run =
      run.withCanvas (delegate line (options.maxDelegationDepth - run.depth) name start stop
        fallback run.canvas) := by
  rw [tagRange, tagRangeWithin_eq options line _ name start stop fallback on (by omega),
    delegateInserting_eq]

/-! ## Where nothing is tagged -/

/-- Where nothing is tagged, nothing at all comes of what is found in a range. -/
theorem performAll_suppressed {actions : List Action} (ordinary : AllOrdinary actions)
    (inside : 0 < run.depth) (off : run.suppressed = true) :
    run.performAll options line delegating actions = run := by
  induction actions with
  | nil => rfl
  | cons action actions ih =>
    have first : run.perform options line delegating action = run := by
      have asked := ordinary action List.mem_cons_self
      cases action with
      | paint painting => exact if_pos off
      | arm restart => exact if_pos inside
      | close => exact if_pos inside
      | switchLanguage name => cases asked
    rw [performAll, List.foldl_cons, first, ← performAll]
    exact ih fun other member => ordinary other (List.mem_cons_of_mem _ member)

theorem tryAll_suppressed (inside : 0 < run.depth) (off : run.suppressed = true) (mode : Mode)
    (column : Nat) (matchers : List Matcher) :
    ∃ taken, run.tryAll options line delegating mode column matchers = (taken, run) := by
  induction matchers with
  | nil => exact ⟨none, rfl⟩
  | cons matcher matchers ih =>
    have ordinary := matcherVerdict_ordinary mode line column matcher
    rw [tryAll, decide_eq_true inside]
    cases verdict : matcherVerdict mode line column true matcher with
    | declined => exact ih
    | passed width => exact ih
    | taken width actions =>
      rw [verdict] at ordinary
      exact ⟨some width, congrArg (Prod.mk _) (performAll_suppressed ordinary inside off)⟩
    | endsLine actions =>
      rw [verdict] at ordinary
      exact ⟨some _, congrArg (Prod.mk _) (performAll_suppressed ordinary inside off)⟩

theorem tagRest_suppressed (inside : 0 < run.depth) (off : run.suppressed = true) (mode : Mode)
    (fallback : Tag) (stop : Nat) (rest : List Char) :
    ∀ (column skip : Nat) (unclaimed : Option Nat),
    tagRest options line mode fallback delegating stop column skip unclaimed run rest = run := by
  have filled : ∀ unclaimed position stop,
      run.fillAt line fallback unclaimed position stop = run := fun _ _ _ => if_pos off
  induction rest with
  | nil => exact fun column skip unclaimed => filled unclaimed _ _
  | cons c rest ih =>
    intro column skip unclaimed
    cases skip with
    | succ skip => exact ih (column + 1) skip unclaimed
    | zero =>
      rw [tagRest]
      by_cases past : stop ≤ column
      · rw [if_pos past, filled]
      · obtain ⟨taken, tried⟩ : ∃ taken, run.tryAll options line delegating mode column
            (mode.matchersAt c) = (taken, run) :=
          tryAll_suppressed inside off mode column (mode.matchersAt c)
        rw [if_neg past, tried]
        cases taken with
        | none => exact ih (column + 1) 0 (some (unclaimed.getD column))
        | some width =>
          dsimp only
          rw [filled]
          exact ih (column + 1) (width - 1) none

/-- Where nothing is tagged, a range does no more than to ask for the mode of its name. -/
theorem tagRange_suppressed (options : Options) (line : List Char) (name : String)
    (start stop : Nat) (fallback : Tag) (off : run.suppressed = true) :
    tagRange options line name start stop fallback run =
      if options.maxDelegationDepth ≤ run.depth then run
      else run.withCanvas
        { run.canvas with registry := (run.canvas.registry.resolve name).2 } := by
  rw [tagRange, tagRangeWithin_succ]
  split
  · exact if_pos off
  · dsimp only
    have entered : 0 < (run.enter name).depth := Nat.succ_pos _
    rw [tagRest_suppressed entered off]
    rfl

/-! ## The line outside of all ranges -/

theorem foldl_mark (on : run.suppressed = false) (tag : Tag) (ranges : List (Nat × Nat)) :
    ranges.foldl (fun run (first, last) => run.mark line first last tag) run =
      run.withCanvas
        (ranges.foldl (fun canvas (first, last) => canvas.add line first last tag)
          run.canvas) := by
  induction ranges generalizing run with
  | nil => rfl
  | cons range ranges ih =>
    obtain ⟨first, last⟩ := range
    have marked : run.mark line first last tag =
        run.withCanvas (run.canvas.add line first last tag) := by
      simp [mark, on, withCanvas]
    rw [List.foldl_cons, List.foldl_cons]
    dsimp only
    rw [marked]
    exact @ih (run.withCanvas (run.canvas.add line first last tag)) on

/-- On the line itself a range is tagged as a run of the line does it. -/
theorem paint_outside (options : Options) (line : List Char) (run : Run) (painting : Painting) :
    (NestedRun.mk run 0).paint options line (tagRange options line) painting =
      ⟨run.paint options line painting, 0⟩ := by
  by_cases off : run.suppressed = true
  · simp [paint, Run.paint, off]
  · have on : run.suppressed = false := by simpa using off
    have painted : (match painting.delegate with
        | some name => tagRange options line name painting.start
            (min painting.stop line.length) painting.tag ⟨run, 0⟩
        | none => if painting.silent then ⟨run, 0⟩
            else (NestedRun.mk run 0).mark line painting.start (min painting.stop line.length)
              painting.tag) =
        (NestedRun.mk run 0).withCanvas
          (run.canvas.paint line (delegate line options.maxDelegationDepth) painting) := by
      unfold Canvas.paint
      cases painting.delegate with
      | some name => exact tagRange_eq options line name _ _ _ on
      | none =>
        cases painting.silent with
        | true => rfl
        | false => simp [mark, on, withCanvas]
    unfold paint Run.paint Run.paintCanvas
    rw [if_neg off, if_neg off]
    dsimp only
    rw [painted]
    by_cases swept : painting.tag ≠ .url ∧ options.highlightUrls = true
    · rw [if_pos swept, if_pos ⟨swept.1, rfl, swept.2⟩]
      exact foldl_mark on .url _
    · rw [if_neg swept, if_neg fun asked => swept ⟨asked.1, asked.2.2⟩]
      rfl

/-- Outside of all ranges, whatever is asked for is done as a run of the line does it. -/
theorem perform_outside (options : Options) (line : List Char) (outside : run.depth = 0)
    (action : Action) : run.perform options line (tagRange options line) action =
      ⟨run.toRun.perform options line action, 0⟩ := by
  obtain ⟨run, depth⟩ := run
  subst outside
  cases action with
  | paint painting => exact paint_outside options line run painting
  | arm restart => rfl
  | close => rfl
  | switchLanguage name =>
    simp only [perform, switchLanguage, Run.perform, Run.switchLanguage]
    by_cases empty : name = ""
    · simp [empty]
    · simp only [if_neg empty]
      cases (run.canvas.registry.resolve? name).1 <;> rfl

/-! ## What a range leaves alone -/

/-- To tag a range only adds to the modes of a registry. -/
theorem grows_composes (line : List Char) :
    Composes line fun work =>
      ∀ canvas : Canvas, canvas.registry.GrowsTo (work canvas).registry where
  id := fun canvas => .refl canvas.registry
  comp := fun one two canvas => (one canvas).trans (two _)
  add := by
    intro start stop tag canvas
    unfold Canvas.add
    dsimp only
    split <;> exact .refl _
  resolving := fun name _ each canvas =>
    (Registry.growsTo_resolve canvas.registry name).trans
      (each (canvas.registry.resolve name).1
        { canvas with registry := (canvas.registry.resolve name).2 })

/-- All that a range does to a run is to add modes, and marks behind those that are there. -/
theorem exists_tagRange_eq (options : Options) (line : List Char) (name : String)
    (start stop : Nat) (fallback : Tag) (run : NestedRun) :
    ∃ canvas, tagRange options line name start stop fallback run = run.withCanvas canvas ∧
      run.canvas.registry.GrowsTo canvas.registry ∧ run.canvas.marks <+: canvas.marks := by
  cases off : run.suppressed with
  | false =>
    refine ⟨_, tagRange_eq options line name start stop fallback off, ?_, ?_⟩
    · exact (grows_composes line).delegate _ name start stop fallback run.canvas
    · have appends := (Canvas.appends_composes line).delegate
        (options.maxDelegationDepth - run.depth) name start stop fallback
        run.canvas.registry run.canvas.marks
      rw [appends]
      exact List.prefix_append _ _
  | true =>
    rw [tagRange_suppressed options line name start stop fallback off]
    split
    · exact ⟨run.canvas, rfl, .refl _, List.prefix_refl _⟩
    · exact ⟨_, rfl, Registry.growsTo_resolve run.canvas.registry name, List.prefix_refl _⟩

/-- Take any line at work, inside of any number of ranges, and go through any range on it under the
rules of a mode of any name.  The state that the line will leave stays, and so do the mode in force,
the change of language, the count of steps, the depth, whether anything is tagged, and all states
that were given out.  Every mode stays that was kept before, and every mark, in front of all that
are added.  What is added is what `delegate` adds, unless nothing is tagged; and outside of all
ranges, whatever is asked for is done as a run of the line does it. -/
theorem tagRange_leaves (options : Options) (line : List Char) (name : String) (start stop : Nat)
    (fallback : Tag) (run : NestedRun) :
    let after := tagRange options line name start stop fallback run
    after.state = run.state ∧ after.suppressed = run.suppressed ∧ after.mode = run.mode ∧
      after.switched = run.switched ∧ after.steps = run.steps ∧ after.depth = run.depth ∧
      after.states = run.states ∧
      (∀ id mode, run.canvas.registry.get? id = some mode →
        after.canvas.registry.get? id = some mode) ∧
      run.canvas.marks <+: after.canvas.marks ∧
      (run.suppressed = false → after.canvas =
        delegate line (options.maxDelegationDepth - run.depth) name start stop fallback
          run.canvas) ∧
      (run.depth = 0 → ∀ action,
        run.perform options line (tagRange options line) action =
          ⟨run.toRun.perform options line action, 0⟩) := by
  intro after
  obtain ⟨canvas, same, grows, added⟩ :=
    exists_tagRange_eq options line name start stop fallback run
  have is : after = run.withCanvas canvas := same
  have tagged : run.suppressed = false → after.canvas =
      delegate line (options.maxDelegationDepth - run.depth) name start stop fallback
        run.canvas := fun on =>
    congrArg (fun run : NestedRun => run.canvas)
      (tagRange_eq options line name start stop fallback on)
  rw [is] at tagged ⊢
  exact ⟨rfl, rfl, rfl, rfl, rfl, rfl, rfl, fun _ _ kept => grows.modes kept, added, tagged,
    fun outside action => perform_outside options line outside action⟩

/-- A language whose parentheses hold another one, with strings that may go on on the next line. -/
def stringsInside : Library where
  files := .ofList [("t", {
    rulesets := [
      ("main", { rules := [{ spec := .span "(" ")" "markup" (some "t::inner") false {} {} }] }),
      ("inner", { rules := [{ spec := .span "\"" "\"" "literal1" none false {} {} }] })] })]

/-- A string that is left open between parentheses runs on to the end of the line, and yet the line
leaves nothing open, and no state is given out for what it would leave. -/
theorem tagRange_leaves_string :
    let line := "(\"a) b".toList
    let clear : Continuation := ⟨⟨"t_main"⟩, .clear⟩
    let run : NestedRun := {
      canvas := ⟨⟨stringsInside, true, .empty⟩, [⟨0, 1, .markup⟩]⟩
      states := ⟨2, [clear]⟩
      mode := ((⟨stringsInside, true, .empty⟩ : Registry).resolve "t").1
      state := ⟨2, 1⟩
      suppressed := false
      depth := 0 }
    let after := tagRange {} line "t::inner" 1 3 .markup run
    after.state = ⟨2, 1⟩ ∧ after.states = ⟨2, [clear]⟩ ∧
      after.canvas.marks = [⟨0, 1, .markup⟩, ⟨1, 6, .literal1⟩] := by
  intro line clear run after
  obtain ⟨state, -, -, -, -, -, states, -, -, tagged, -⟩ :=
    tagRange_leaves {} line "t::inner" 1 3 .markup run
  have on : run.suppressed = false := rfl
  have marks : (delegate line (({} : Options).maxDelegationDepth - run.depth) "t::inner" 1 3
      .markup run.canvas).marks = [⟨0, 1, .markup⟩, ⟨1, 6, .literal1⟩] := by
    decide +kernel
  exact ⟨state, states, by rw [tagged on]; exact marks⟩

end NestedRun

end Highlighter.Line
