import Highlighter.Line.Run

/-!
# Sessions

A session tags the lines of a document in one language.  Each line starts in the state that the line
before it left, and a state can be used again at any time within its generation.  Setting the
language starts a new generation.

What `linetag` calls a definition, here and in the other modules, stands in parentheses in its
docstring, as `Colorizer.process_line` does with `tagLine`.
-/

namespace Highlighter

open Line (LanguageSwitch)

/-- What came of a line. -/
structure LineResult where
  events : List Event
  /-- The state that the line leaves. -/
  state : StateId
  /-- The language that the line asked for; the lines behind it have to be tagged again. -/
  switched : Option LanguageSwitch
  steps : Nat
  deriving DecidableEq, Repr

/-- The modes and states of a document, with its language (`Colorizer`). -/
structure Session where
  registry : Registry
  states : States := {}
  language : String := ""
  /-- The mode of the language. -/
  base : Mode := .unknown .noLanguage
  options : Options

namespace Session

/-- A session that has no language yet (`Colorizer.new`). -/
def new (library : Library) (options : Options) : Session where
  registry := ⟨library, options.highlightUrls, .empty⟩
  options := options

/-- Starts a new generation in a language (`Colorizer.reset_language`).  The answer is the state of
its first line. -/
def setLanguage (session : Session) (name : String) : StateId × Session :=
  let (base, registry) := session.registry.resolve name
  let (state, states) := session.states.reset.clearState base.ruleset
  (state, { session with registry, states, base, language := name })

/-- The state of the first line of a document, which may start with colouring turned off
(`Colorizer.initial_state`). -/
def initialState (session : Session) (enabled : Bool) : StateId × Session :=
  let restart := if enabled then Restart.clear else .noColor
  let (state, states) := session.states.stateOf ⟨session.base.ruleset, restart⟩
  (state, { session with states })

/-- A state in words (`Colorizer.describe_state`). -/
def describe (session : Session) (state : StateId) : String :=
  session.states.describe state

/-- Whether a line has characters and all of them are white space. -/
def isBlankLine (line : List Char) : Bool :=
  !line.isEmpty && line.all Unicode.isWhitespace

/-- A line about to be run: from a continuation, in the mode of its ruleset, or else from the start
of the session's language (the head of `Colorizer.process_line`).  A ruleset that is not kept is
taken to be that of the session's language. -/
def startRun (session : Session) (state : StateId) (continuation : Option Continuation) :
    Restart × Line.Run :=
  match continuation with
  | none =>
    let (state, states) := session.states.clearState session.base.ruleset
    (.clear, {
      canvas := ⟨session.registry, []⟩, states, mode := session.base, state, suppressed := false })
  | some continuation =>
    let mode := (session.registry.get? continuation.ruleset).getD session.base
    (continuation.restart, {
      canvas := ⟨session.registry, []⟩, states := session.states, mode, state,
      suppressed := continuation.restart.suppressesColor })

/-- The run of a whole line (the run in `Colorizer.process_line`).  A line of white space is left as
it starts. -/
def runLine (session : Session) (state : StateId) (continuation : Option Continuation)
    (line : List Char) : Line.Run :=
  let (restart, run) := session.startRun state continuation
  if isBlankLine line then run else run.start session.options line restart

/-- What came of a line that was run (`LineRun.finish`). -/
def resultOf (line : List Char) (run : Line.Run) : LineResult where
  events := run.canvas.marks.map (Mark.toEvent line)
  state := run.state
  switched := run.switched
  steps := run.steps

/-- Tags a line from a state (`Colorizer.process_line`).  A state of another generation, or one that
was never given out, is refused. -/
def tagLine (session : Session) (state : StateId) (line : List Char) :
    Except StateError LineResult × Session :=
  match session.states.continuationOf state with
  | .error error => (.error error, session)
  | .ok continuation =>
    let run := session.runLine state continuation line
    (.ok (resultOf line run),
      { session with registry := run.canvas.registry, states := run.states })

/-- Tags a line from a state and reports its events in order to a sink
(`Colorizer.process_line_into`). -/
def tagLineInto {σ : Type} (session : Session) (state : StateId) (line : List Char)
    (report : σ → List Char → Event → σ) (sink : σ) :
    Except StateError LineResult × Session × σ :=
  match session.tagLine state line with
  | (.error error, session) => (.error error, session, sink)
  | (.ok result, session) =>
    (.ok result, session, result.events.foldl (fun sink event => report sink line event) sink)

end Session

end Highlighter
