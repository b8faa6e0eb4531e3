import Highlighter.Continuation

/-!
# Verdicts

A matcher looks at one place of a line and gives a verdict, which says how much of the line it takes
and what is to be done about it.  Matchers have no effects of their own: all that happens to a line
is in the actions of their verdicts, in order.
-/

namespace Highlighter.Line

/-- A range of a line that is to be tagged (the arguments of `LineRun.color_range`). -/
structure Painting where
  start : Nat
  stop : Nat
  tag : Tag
  /-- The mode that tags the range in detail. -/
  delegate : Option String := none
  /-- The range itself stays untagged; only what is found inside is. -/
  silent : Bool := false
  deriving DecidableEq, Repr

/-- What is to be done to a line. -/
inductive Action where
  | paint (painting : Painting)
  /-- Leaves something open for the next line. -/
  | arm (restart : Restart)
  /-- Leaves nothing open. -/
  | close
  /-- Goes on in the language of this name. -/
  | switchLanguage (name : String)
  deriving DecidableEq, Repr

/-- The range that an action tags, if that is what it does. -/
def Action.painting? : Action → Option Painting
  | paint painting => some painting
  | _ => none

/-- What a matcher finds at a place (`MatchResult`). -/
inductive Verdict where
  /-- Nothing; others may be tried. -/
  | declined
  /-- A token that is not to be tagged; nothing else is tried at its characters. -/
  | passed (width : Nat)
  /-- A match of this width. -/
  | taken (width : Nat) (actions : List Action)
  /-- A match of the rest of the line. -/
  | endsLine (actions : List Action)
  deriving DecidableEq, Repr

/-- What becomes of a line at its start (`RestartOutcome`). -/
inductive Resumption where
  /-- Matching goes on at a column. -/
  | at (column : Nat) (actions : List Action)
  /-- The line is done. -/
  | done (actions : List Action)
  deriving DecidableEq, Repr

/-- The tagging of a span: `[start, inside)` is its opening, `[inside, closing)` its inside and
`[closing, stop)` its end marker, which is empty for a span that stays open
(`LineRun.color_span`). -/
def paintSpan (form : SpanForm) (start inside closing stop : Nat) : List Action :=
  match form.delegate with
  | some name => [
      .paint { start, stop := inside, tag := form.tag, silent := form.excludeMatch },
      .paint { start := inside, stop := closing, tag := form.tag, delegate := some name },
      .paint { start := closing, stop, tag := form.tag, silent := form.excludeMatch }]
  | none =>
    if form.excludeMatch then [.paint { start := inside, stop := closing, tag := form.tag }]
    else [.paint { start, stop, tag := form.tag }]

end Highlighter.Line
