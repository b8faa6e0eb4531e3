import Highlighter.Proofs.Guarded.Canvas
import Highlighter.Proofs.Line.Repeating

/-!
# Running a line under guard

The loop over a whole line, in byte offsets and under guard.  `RunMirrors` says of a piece of work
on a run what `Mirrors` says of one on a canvas: it does not break off under guard, and comes to the
same in bytes.
-/

namespace Highlighter.Guarded

open Text
open Line (Action Canvas Painting Resumption Run Verdict)

/-- Performs one action. -/
def perform? (limits : Limits) (options : Options) (text : List Char) (run : Run) :
    Action → Option Run
  | .paint painting =>
    if run.suppressed then some run
    else (paintCanvas? limits options text painting run.canvas).map fun canvas =>
      { run with canvas }
  | .arm restart => some (run.arm restart)
  | .close => some run.close
  | .switchLanguage name => some (run.switchLanguage name)

/-- Goes on along a line by the verdict at an offset, on a character of `size` bytes. -/
def heed? (limits : Limits) (options : Options) (text : List Char)
    (goOn : (offset : Nat) → Run → Option Run) (offset size : Nat) (run : Run) :
    Verdict → Option Run
  | .declined => goOn (offset + size) run
  | .passed width => do
    let next ← behind? text offset width
    goOn next run
  | .taken width actions => do
    let run ← actions.foldlM (perform? limits options text) run
    let next ← behind? text offset width
    goOn next run
  | .endsLine actions => actions.foldlM (perform? limits options text) run

/-- Dispatches on the characters of a line from an offset on (the loop of `LineRun.main_loop`). -/
def dispatch? (limits : Limits) (options : Options) (text : List Char) :
    (rounds offset : Nat) → Run → Option Run
  | 0, _, _ => none
  | rounds + 1, offset, run =>
    if byteLength text ≤ offset then some run
    else do
      let rest ← from? text offset
      let c ← rest.head?
      let verdict ← firstVerdict? limits.rounds run.mode text offset (run.mode.matchersAt c)
      heed? limits options text (dispatch? limits options text rounds) offset c.utf8Size run.step
        verdict

/-- Runs a whole line from what is open at its start (`LineRun.main_loop`). -/
def start? (limits : Limits) (options : Options) (text : List Char) (restart : Restart)
    (run : Run) : Option Run := do
  let run := run.step
  let resumption ← resume? limits.rounds run.mode text restart
  match resumption with
  | .done actions => actions.foldlM (perform? limits options text) run
  | .at offset actions => do
    let run ← actions.foldlM (perform? limits options text) run
    dispatch? limits options text limits.rounds offset run

/-! ## Mirrored runs -/

/-- A run with its marks in bytes. -/
def runInBytes (text : List Char) (run : Run) : Run :=
  { run with canvas := canvasInBytes text run.canvas }

/-- What is known and marked is as it should be, and so is the mode in force. -/
structure Fits (text : List Char) (run : Run) : Prop where
  canvas : CanvasFits text run.canvas
  mode : run.mode.Consists FitsAt

/-- Work on a run under guard that comes to the same, in bytes, as work without, and never breaks
off. -/
structure RunMirrors (text : List Char) (guarded : Run → Option Run) (work : Run → Run) : Prop where
  same : ∀ {run : Run}, Fits text run →
    guarded (runInBytes text run) = some (runInBytes text (work run))
  keeps : ∀ {run : Run}, Fits text run → Fits text (work run)

namespace RunMirrors

variable {text : List Char}

theorem id : RunMirrors text some fun run => run where
  same := fun _ => rfl
  keeps := fun fits => fits

theorem comp {first? second? : Run → Option Run} {first second : Run → Run}
    (one : RunMirrors text first? first) (two : RunMirrors text second? second) :
    RunMirrors text (fun run => (first? run).bind second?) fun run => second (first run) where
  same := by
    intro run fits
    rw [one.same fits, Option.bind_some, two.same (one.keeps fits)]
  keeps := fun fits => two.keeps (one.keeps fits)

theorem foldlM {α : Type} {work? : Run → α → Option Run} {work : Run → α → Run} (items : List α)
    (each : ∀ item, RunMirrors text (work? · item) (work · item)) :
    RunMirrors text (items.foldlM work? ·) (items.foldl work ·) := by
  induction items with
  | nil => exact .id
  | cons item items ih => exact (each item).comp ih

end RunMirrors

variable {text : List Char} {limits : Limits} {options : Options}

theorem step_mirrors (text : List Char) :
    RunMirrors text (fun run => some run.step) Run.step where
  same := fun _ => rfl
  keeps := fun fits => ⟨fits.canvas, fits.mode⟩

/-- Work that goes by the mode in force is mirrored if it is for every mode that may be. -/
theorem RunMirrors.inMode {work? : Mode → Run → Option Run} {work : Mode → Run → Run}
    (each : ∀ mode, mode.Consists FitsAt → RunMirrors text (work? mode) (work mode)) :
    RunMirrors text (fun run => work? run.mode run) fun run => work run.mode run where
  same := fun {run} fits => (each run.mode fits.mode).same fits
  keeps := fun {run} fits => (each run.mode fits.mode).keeps fits

theorem RunMirrors.of_canvas {work? : Canvas → Option Canvas} {work : Canvas → Canvas}
    (mirrors : Mirrors text work? work) :
    RunMirrors text (fun run => (work? run.canvas).map fun canvas => { run with canvas })
      fun run => { run with canvas := work run.canvas } where
  same := by
    intro run fits
    show (work? (canvasInBytes text run.canvas)).map _ = _
    rw [mirrors.same fits.canvas]
    rfl
  keeps := fun fits => ⟨mirrors.keeps fits.canvas, fits.mode⟩

theorem switchLanguage_mirrors (text : List Char) (name : String) :
    RunMirrors text (fun run => some (run.switchLanguage name)) (Run.switchLanguage name) where
  same := by
    intro run _
    rw [Run.switchLanguage_eq, Run.switchLanguage_eq, Option.some_inj]
    split
    · rfl
    · change (if (run.canvas.registry.resolve name).1.isUnknown then _ else _) = _
      split <;> rfl
  keeps := by
    intro run fits
    obtain ⟨resolved, known⟩ := Registry.resolve_consists fitsAt_ofMatchers fits.canvas.known name
    rw [Run.switchLanguage_eq]
    split
    · exact ⟨fits.canvas, fits.mode⟩
    · split
      · exact ⟨⟨known, fits.canvas.marks⟩, fits.mode⟩
      · exact ⟨⟨known, fits.canvas.marks⟩, resolved⟩

theorem perform_mirrors (suffice : limits.Suffice options text) (action : Action) :
    RunMirrors text (perform? limits options text · (actionInBytes text action))
      (Run.perform options text · action) := by
  cases action with
  | paint painting =>
    have painted := RunMirrors.of_canvas (paintCanvas_mirrors suffice painting)
    refine ⟨fun {run} fits => ?_, fun {run} fits => ?_⟩
    · by_cases off : run.suppressed
      · have offToo : (runInBytes text run).suppressed := off
        simp only [actionInBytes, perform?, Run.perform, Run.paint, if_pos off, if_pos offToo]
      · have onToo : ¬(runInBytes text run).suppressed := off
        simp only [actionInBytes, perform?, Run.perform, Run.paint, if_neg off, if_neg onToo]
        exact painted.same fits
    · by_cases off : run.suppressed
      · simp only [Run.perform, Run.paint, if_pos off]
        exact fits
      · simp only [Run.perform, Run.paint, if_neg off]
        exact painted.keeps fits
  | arm restart => exact ⟨fun _ => rfl, fun fits => ⟨fits.canvas, fits.mode⟩⟩
  | close => exact ⟨fun _ => rfl, fun fits => ⟨fits.canvas, fits.mode⟩⟩
  | switchLanguage name => exact switchLanguage_mirrors text name

theorem performAll_mirrors (suffice : limits.Suffice options text) (actions : List Action) :
    RunMirrors text
      (fun run => (actions.map (actionInBytes text)).foldlM (perform? limits options text) run)
      (Run.performAll options text · actions) := by
  simp only [List.foldlM_map]
  exact .foldlM actions (perform_mirrors suffice)

/-! ## Whole lines -/

/-- What belongs to the match before is passed over. -/
theorem dispatch_skip (options : Options) (line : List Char) (run : Run) (rest : List Char) :
    ∀ column skip, Run.dispatch options line column skip run rest =
      Run.dispatch options line (column + skip) 0 run (rest.drop skip) :=
  loop_skip (Run.dispatch options line · · run ·) (fun _ _ => rfl) (fun _ _ _ _ => rfl) rest

theorem heed_mirrors (suffice : limits.Suffice options text) {column : Nat}
    {goOn : (offset : Nat) → Run → Option Run} {c : Char} {rest : List Char}
    (here : text.drop column = c :: rest)
    (goesOn : ∀ width, 0 < width → RunMirrors text (goOn (byteOffset text (column + width)))
      (Run.dispatch options text (column + width) 0 · (text.drop (column + width))))
    {verdict : Verdict} (moves : Moves verdict) :
    RunMirrors text
      (heed? limits options text goOn (byteOffset text column) c.utf8Size ·
        (verdictInBytes text column verdict))
      (Run.heed options text column rest verdict) := by
  have onLine := lt_length_of_drop here
  have isRest : rest = text.drop (column + 1) := (drop_succ here).symm
  have behind : ∀ width, 0 < width → RunMirrors text (goOn (byteOffset text (column + width)))
      (Run.dispatch options text (column + 1) (width - 1) · rest) := by
    intro width positive
    simp only [isRest, dispatch_skip _ _ _ _ (column + 1) (width - 1), List.drop_drop,
      show column + 1 + (width - 1) = column + width by omega]
    exact goesOn width positive
  cases verdict with
  | declined =>
    have next := behind 1 Nat.one_pos
    rw [byteOffset_succ here] at next
    exact next
  | passed width =>
    simp only [verdictInBytes, heed?, behind?_inBytes onLine moves, Option.bind_eq_bind,
      Option.bind_some]
    exact behind width moves
  | taken width actions =>
    simp only [verdictInBytes, heed?, behind?_inBytes onLine moves, Option.bind_eq_bind,
      Option.bind_some]
    exact (performAll_mirrors suffice actions).comp (behind width moves)
  | endsLine actions => exact performAll_mirrors suffice actions

/-- Going along a line is mirrored, if it may take a round for each character of the line. -/
theorem dispatch_mirrors (suffice : limits.Suffice options text) (rounds : Nat) :
    ∀ column, text.length + 1 ≤ rounds + min column text.length →
    RunMirrors text (dispatch? limits options text rounds (byteOffset text column))
      (Run.dispatch options text column 0 · (text.drop column)) := by
  induction rounds with
  | zero =>
    intro column left
    omega
  | succ rounds ih =>
    intro column left
    have ended : byteLength text ≤ byteOffset text column ↔ text.length ≤ column := by
      rw [← byteOffset_length, byteOffset_le_iff]
      omega
    simp only [dispatch?, ended]
    by_cases past : text.length ≤ column
    · simp only [if_pos past, List.drop_eq_nil_of_le past]
      exact .id
    · have onLine : column < text.length := by omega
      have here := List.drop_eq_getElem_cons onLine
      have present : Text.charAt? text column = some text[column] := by
        rw [Text.charAt?, here]
        rfl
      have goesOn : ∀ width, 0 < width → RunMirrors text
          (dispatch? limits options text rounds (byteOffset text (column + width)))
          (Run.dispatch options text (column + width) 0 · (text.drop (column + width))) :=
        fun width positive => ih (column + width) (by omega)
      have each : ∀ mode, mode.Consists FitsAt → RunMirrors text
          (fun run => (firstVerdict? limits.rounds mode text (byteOffset text column)
            (mode.matchersAt text[column])).bind
            (heed? limits options text (dispatch? limits options text rounds)
              (byteOffset text column) text[column].utf8Size run.step))
          (fun run => Run.heed options text column (text.drop (column + 1))
            (Line.firstVerdict mode text column (mode.matchersAt text[column])) run.step) := by
        intro mode fits
        simp only [firstVerdict?_eq fits.matchersAt present suffice.rounds, Option.bind_some]
        exact (step_mirrors text).comp (heed_mirrors suffice here goesOn
          (firstVerdict_moves fits.matchersAt onLine))
      simp only [if_neg past, from?_byteOffset, here, List.head?_cons, Option.bind_eq_bind,
        Option.bind_some, Run.dispatch_cons]
      exact .inMode each

/-- A whole line is mirrored. -/
theorem start_mirrors (suffice : limits.Suffice options text) (restart : Restart) :
    RunMirrors text (start? limits options text restart) (Run.start options text restart) := by
  have each : ∀ mode, mode.Consists FitsAt → RunMirrors text
      (fun run => (resume? limits.rounds mode text restart).bind fun resumption =>
        match resumption with
        | .done actions => actions.foldlM (perform? limits options text) run.step
        | .at offset actions => (actions.foldlM (perform? limits options text) run.step).bind
          (dispatch? limits options text limits.rounds offset))
      (fun run => Run.goOn options text (Line.resume mode text restart) run.step) := by
    intro mode _
    simp only [resume?_eq suffice.rounds, Option.bind_some]
    cases Line.resume mode text restart with
    | done actions => exact (step_mirrors text).comp (performAll_mirrors suffice actions)
    | «at» column actions =>
      have enough := suffice.rounds
      exact (step_mirrors text).comp ((performAll_mirrors suffice actions).comp
        (dispatch_mirrors suffice limits.rounds column (by omega)))
  exact .inMode each

end Highlighter.Guarded
