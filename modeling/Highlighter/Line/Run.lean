import Highlighter.Line.Canvas
import Highlighter.States

/-!
# Running a line

A run goes along a line once.  It starts with what the line before left open, then dispatches on
each character that no match has taken, and performs the actions of the verdicts in order.  The
number of steps is one for the start and one for each dispatch.
-/

namespace Highlighter

/-- What a session may be told about tagging (`ColorizerOptions`). -/
structure Options where
  /-- Addresses are tagged, on their own and inside what is tagged otherwise. -/
  highlightUrls : Bool := true
  /-- How deep ranges may be delegated from mode to mode. -/
  maxDelegationDepth : Nat := 16
  deriving DecidableEq, Repr

namespace Line

/-- A change of language that a line asked for. -/
structure LanguageSwitch where
  name : String
  /-- There are rules for the language, and they are in force. -/
  resolved : Bool
  deriving DecidableEq, Repr

/-- A line at work: the marks so far, the mode in force, and the state that the line will leave
(`LineRun`). -/
structure Run where
  canvas : Canvas
  states : States
  mode : Mode
  state : StateId
  /-- Nothing is tagged for now. -/
  suppressed : Bool
  switched : Option LanguageSwitch := none
  steps : Nat := 0

namespace Run

/-- Tags addresses in a range (`LineRun.sweep_urls`). -/
def sweepUrls (line : List Char) (start stop : Nat) (canvas : Canvas) : Canvas :=
  (Url.findIn line start stop).foldl (fun canvas (first, last) => canvas.add line first last .url)
    canvas

/-- Tags a range, and the addresses in it. -/
def paintCanvas (options : Options) (line : List Char) (painting : Painting) (canvas : Canvas) :
    Canvas :=
  let canvas := canvas.paint line (delegate line options.maxDelegationDepth) painting
  if painting.tag ≠ .url ∧ options.highlightUrls then
    sweepUrls line painting.start (min painting.stop line.length) canvas
  else canvas

/-- Tags a range, unless nothing is tagged for now (`LineRun.color_range`). -/
def paint (options : Options) (line : List Char) (painting : Painting) (run : Run) : Run :=
  if run.suppressed then run
  else { run with canvas := paintCanvas options line painting run.canvas }

/-- Leaves something open, under the ruleset in force (`LineRun.set_restart`). -/
def arm (restart : Restart) (run : Run) : Run :=
  let (state, states) := run.states.stateOf ⟨run.mode.ruleset, restart⟩
  { run with state, states, suppressed := restart.suppressesColor }

/-- Leaves nothing open (`LineRun.clear_state`). -/
def close (run : Run) : Run :=
  let (state, states) := run.states.clearState run.mode.ruleset
  { run with state, states, suppressed := false }

/-- Brings the rules of a language into force, if there are any, with nothing open
(`LineRun.switch_language`). -/
def switchLanguage (name : String) (run : Run) : Run :=
  let (mode?, registry) :=
    if name = "" then (none, run.canvas.registry) else run.canvas.registry.resolve? name
  let run := { run with canvas := { run.canvas with registry } }
  let run :=
    match mode? with
    | some mode => close { run with mode }
    | none => run
  { run with switched := some ⟨name, mode?.isSome⟩ }

/-- Performs one action. -/
def perform (options : Options) (line : List Char) (run : Run) : Action → Run
  | .paint painting => run.paint options line painting
  | .arm restart => run.arm restart
  | .close => run.close
  | .switchLanguage name => run.switchLanguage name

/-- Performs actions in order. -/
def performAll (options : Options) (line : List Char) (run : Run) (actions : List Action) : Run :=
  actions.foldl (perform options line) run

/-- Counts a step. -/
def step (run : Run) : Run :=
  { run with steps := run.steps + 1 }

/-- Dispatches on the characters of the rest of a line, which starts at `column` and of which the
first `skip` are taken (the loop of `LineRun.main_loop`). -/
def dispatch (options : Options) (line : List Char) (column skip : Nat) (run : Run) :
    (rest : List Char) → Run
  | [] => run
  | c :: rest =>
    match skip with
    | skip + 1 => dispatch options line (column + 1) skip run rest
    | 0 =>
      let run := run.step
      match firstVerdict run.mode line column (run.mode.matchersAt c) with
      | .declined => dispatch options line (column + 1) 0 run rest
      | .passed width => dispatch options line (column + 1) (width - 1) run rest
      | .taken width actions =>
        dispatch options line (column + 1) (width - 1) (run.performAll options line actions) rest
      | .endsLine actions => run.performAll options line actions

/-- Runs a whole line from what is open at its start (`LineRun.main_loop`). -/
def start (options : Options) (line : List Char) (restart : Restart) (run : Run) : Run :=
  let run := run.step
  match resume run.mode line restart with
  | .done actions => run.performAll options line actions
  | .at column actions =>
    dispatch options line column 0 (run.performAll options line actions) (line.drop column)

end Run

end Line

end Highlighter
