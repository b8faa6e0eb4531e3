import Highlighter.Line.Directives
import Highlighter.Registry
import Highlighter.Span

/-!
# Tagging ranges

A canvas collects the marks of a line, together with the registry that delegated ranges take their
modes from.  A range that is delegated is gone through character by character under the rules of the
delegate.  What a rule matches is tagged as the rule says, in turn perhaps by a further delegate,
and what no rule matches is filled with one tag.  Delegation stops at a given depth.
-/

namespace Highlighter.Line

/-- The marks of a line so far, and the modes that are known. -/
structure Canvas where
  registry : Registry
  marks : List Mark := []

/-- A way to tag a range of a line by the mode of a name, with a tag for what it leaves. -/
abbrev Delegation := (name : String) → (start stop : Nat) → (fallback : Tag) → Canvas → Canvas

namespace Canvas

/-- Adds a mark, cut at the end of the line (`LineRun.set_tag`).  An empty range and plain text are
not marked. -/
def add (line : List Char) (start stop : Nat) (tag : Tag) (canvas : Canvas) : Canvas :=
  let stop := min stop line.length
  if stop ≤ start ∨ tag = .null then canvas
  else { canvas with marks := canvas.marks ++ [⟨start, stop, tag⟩] }

/-- Tags a range as a verdict asks for (the tagging in `LineRun.color_range`). -/
def paint (line : List Char) (delegation : Delegation) (painting : Painting) (canvas : Canvas) :
    Canvas :=
  let stop := min painting.stop line.length
  match painting.delegate with
  | some name => delegation name painting.start stop painting.tag canvas
  | none => if painting.silent then canvas else canvas.add line painting.start stop painting.tag

/-- Tags ranges in order. -/
def paintAll (line : List Char) (delegation : Delegation) (paintings : List Painting)
    (canvas : Canvas) : Canvas :=
  paintings.foldl (fun canvas painting => canvas.paint line delegation painting) canvas

/-- Tags the text that no rule matched, from the column where it starts if there is any. -/
def fill (line : List Char) (fallback : Tag) (unclaimed : Option Nat) (stop : Nat)
    (canvas : Canvas) : Canvas :=
  match unclaimed with
  | some start => canvas.add line start stop fallback
  | none => canvas

/-- Goes through the rest of a range up to `stop` under the rules of a mode (the loop of
`LineRun.run_range`).  The rest of the line is at `column`, the first `skip` characters belong to
the match before, and `unclaimed` is where the text starts that no rule has matched since. -/
def tagRest (line : List Char) (mode : Mode) (fallback : Tag) (delegation : Delegation) (stop : Nat)
    (column skip : Nat) (unclaimed : Option Nat) (canvas : Canvas) : (rest : List Char) → Canvas
  | [] => canvas.fill line fallback unclaimed (min column stop)
  | c :: rest =>
    match skip with
    | skip + 1 =>
      tagRest line mode fallback delegation stop (column + 1) skip unclaimed canvas rest
    | 0 =>
      if stop ≤ column then canvas.fill line fallback unclaimed (min column stop)
      else
        match firstClaim? mode line column (mode.matchersAt c) with
        | none =>
          tagRest line mode fallback delegation stop (column + 1) 0
            (some (unclaimed.getD column)) canvas rest
        | some (width, paintings) =>
          let canvas := canvas.fill line fallback unclaimed column
          let canvas := canvas.paintAll line delegation paintings
          tagRest line mode fallback delegation stop (column + 1) (width - 1) none canvas rest

end Canvas

/-- Tags the range `[start, stop)` by a mode, with at most `depth` delegations inside each other
(`LineRun.run_range`).  At depth zero the whole range gets the tag that the delegating rule gives.
Text that no rule of the mode matches gets the mode's default tag, or else that of the delegating
rule. -/
def delegate (line : List Char) : (depth : Nat) → Delegation
  | 0 => fun _ start stop fallback canvas => canvas.add line start stop fallback
  | depth + 1 => fun name start stop fallback canvas =>
    let (mode, registry) := canvas.registry.resolve name
    Canvas.tagRest line mode (mode.defaultTag.getD fallback) (delegate line depth) stop start 0 none
      { canvas with registry } (line.drop start)

end Highlighter.Line
