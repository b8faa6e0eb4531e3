import Highlighter.Pattern.CharClass

/-!
# Pattern expressions

The meaning of a written pattern once its flags are resolved.  Groups leave no trace: only the
extent of a match is ever asked for.
-/

namespace Highlighter.Pattern

/-- What stands on either side of a position of a line. -/
structure Surroundings where
  before : Option Char
  after : Option Char

/-- A condition on a position. -/
inductive Assertion where
  | textStart
  | textEnd
  | lineStart
  | lineEnd
  | wordBoundary
  | notWordBoundary
  | wordStart
  | wordEnd
  | wordStartHalf
  | wordEndHalf
  deriving DecidableEq, Repr

namespace Assertion

/-- Whether a neighbour is there and is a word character. -/
def isWord (neighbour : Option Char) : Bool :=
  neighbour.any Unicode.isWordCharacter

/-- Whether the condition holds between these neighbours. -/
def holds (assertion : Assertion) (here : Surroundings) : Bool :=
  let before := isWord here.before
  let after := isWord here.after
  match assertion with
  | textStart => here.before.isNone
  | textEnd => here.after.isNone
  | lineStart => here.before.all (· == '\n')
  | lineEnd => here.after.all (· == '\n')
  | wordBoundary => before != after
  | notWordBoundary => before == after
  | wordStart => !before && after
  | wordEnd => before && !after
  | wordStartHalf => !before
  | wordEndHalf => !after

end Assertion

/-- A pattern. -/
inductive Expr where
  | empty
  | one (chars : CharClass)
  | assert (condition : Assertion)
  | sequence (first second : Expr)
  /-- The first alternative is preferred. -/
  | either (first second : Expr)
  /-- At least `least` and at most `most` times; as often as possible is preferred if `greedy`. -/
  | many (body : Expr) (least : Nat) (most : Option Nat) (greedy : Bool)

namespace Expr

/-- One expression after the other. -/
def concat (parts : List Expr) : Expr :=
  match parts with
  | [] => empty
  | [part] => part
  | part :: rest => sequence part (concat rest)

/-- A choice of expressions, the earlier ones preferred. -/
def choice (branches : List Expr) : Expr :=
  match branches with
  | [] => empty
  | [branch] => branch
  | branch :: rest => either branch (choice rest)

end Expr

end Highlighter.Pattern
