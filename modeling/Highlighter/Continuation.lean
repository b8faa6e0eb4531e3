import Highlighter.Mode.Basic
import Highlighter.Text.Basic

/-!
# Continuations

What a line leaves for the next one: the ruleset that is in force and what is still open.
Continuations are compared by value.
-/

namespace Highlighter

/-- What is open at the start of a line. -/
inductive Restart where
  /-- Nothing. -/
  | clear
  /-- A span. -/
  | span (form : SpanForm)
  /-- A documentation part. -/
  | docPart
  /-- Nothing, and colouring was turned on by a directive. -/
  | color
  /-- Nothing is coloured until a directive turns colouring on. -/
  | noColor
  /-- Nothing is coloured for the rest of the node. -/
  | noColorNode
  /-- Nothing is coloured any more. -/
  | killColor
  deriving DecidableEq, Repr

/-- Whether nothing is coloured (`Restart.suppresses_color`). -/
def Restart.suppressesColor : Restart → Bool
  | noColor | noColorNode | killColor => true
  | _ => false

/-- What is open, and the ruleset that opened it. -/
structure Continuation where
  ruleset : RulesetId
  restart : Restart
  deriving DecidableEq, Repr

namespace Continuation

/-- Nothing open, under a ruleset (`Continuation.clear`). -/
def clear (ruleset : RulesetId) : Continuation :=
  ⟨ruleset, .clear⟩

/-- The words for an open span. -/
def spanText (form : SpanForm) : String :=
  let delegate := (form.delegate.map (";delegate=" ++ ·)).getD ""
  let flag (isSet : Bool) (name : String) := if isSet then ";" ++ name else ""
  ";span;end=" ++ Text.quoted form.stop ++ ";" ++ form.tag.word ++ delegate
    ++ flag form.excludeMatch "!match"
    ++ flag form.flags.noEscape "!esc"
    ++ flag form.flags.noLineBreak "!lbrk"
    ++ flag form.flags.noWordBreak "!wbrk"

/-- A continuation in words. -/
def text (continuation : Continuation) : String :=
  continuation.ruleset.text ++
    match continuation.restart with
    | .clear => ""
    | .span form => spanText form
    | .docPart => ";@doc"
    | .color => ";@color"
    | .noColor => ";@nocolor"
    | .noColorNode => ";@nocolor-node"
    | .killColor => ";@killcolor"

end Continuation

end Highlighter
