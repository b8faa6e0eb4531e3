import Highlighter.Unicode.Case
import Highlighter.Unicode.Classes

/-!
# Character classes of patterns

A class is kept as the expression that describes it and is evaluated at the character in question.
Ignoring case is an operation on classes: `folded` adds every character that folds like a member.
-/

namespace Highlighter.Pattern

/-- A set of characters, by the operations that build it. -/
inductive CharClass where
  | none
  | range (first last : Char)
  | property (ranges : Unicode.Ranges)
  | union (left right : CharClass)
  | inter (left right : CharClass)
  | complement (inner : CharClass)
  /-- Every character that has the simple case folding of a member. -/
  | folded (inner : CharClass)

namespace CharClass

/-- Whether a character belongs to the class. -/
def contains : CharClass → Char → Bool
  | none, _ => false
  | range first last, c => first ≤ c && c ≤ last
  | property ranges, c => ranges.contains c
  | union left right, c => left.contains c || right.contains c
  | inter left right, c => left.contains c && right.contains c
  | complement inner, c => !inner.contains c
  | folded inner, c => inner.contains c || (Unicode.foldOrbit c).any inner.contains

/-- The class of one character. -/
def single (c : Char) : CharClass :=
  range c c

/-- The class of every character. -/
def any : CharClass :=
  complement none

/-- The union of several classes. -/
def unions (classes : List CharClass) : CharClass :=
  classes.foldr union none

/-- The members of the first class that are not in the second. -/
def difference (left right : CharClass) : CharClass :=
  inter left (complement right)

/-- The characters in one of the two classes but not in both. -/
def symmetricDifference (left right : CharClass) : CharClass :=
  union (difference left right) (difference right left)

/-- A class as it stands in brackets: widened by case folding first if case is ignored, then
complemented if it is negated. -/
def bracketed (ignoreCase negated : Bool) (inner : CharClass) : CharClass :=
  let widened := if ignoreCase then folded inner else inner
  if negated then complement widened else widened

/-- Decimal digits, `\d`. -/
def digits : CharClass :=
  property Unicode.decimalDigits

/-- White space, `\s`. -/
def space : CharClass :=
  property Unicode.whiteSpace

/-- Word characters, `\w`. -/
def word : CharClass :=
  union (property Unicode.alphabetic) (property Unicode.wordParts)

/-- The ASCII classes that have names of their own inside brackets. -/
def named? (name : String) : Option CharClass :=
  let lower := range 'a' 'z'
  let upper := range 'A' 'Z'
  let digit := range '0' '9'
  match name with
  | "alnum" => some (unions [digit, upper, lower])
  | "alpha" => some (unions [upper, lower])
  | "ascii" => some (range '\x00' '\x7f')
  | "blank" => some (unions [single '\t', single ' '])
  | "cntrl" => some (unions [range '\x00' '\x1f', single '\x7f'])
  | "digit" => some digit
  | "graph" => some (range '!' '~')
  | "lower" => some lower
  | "print" => some (range ' ' '~')
  | "punct" => some (unions [range '!' '/', range ':' '@', range '[' '\x60', range '\x7b' '~'])
  | "space" => some (unions [range '\t' '\r', single ' '])
  | "upper" => some upper
  | "word" => some (unions [digit, upper, single '_', lower])
  | "xdigit" => some (unions [digit, range 'A' 'F', range 'a' 'f'])
  | _ => Option.none

/-- The Unicode properties that patterns may name, by a name in small letters without separators. -/
def unicodeProperty? (name : String) : Option CharClass :=
  match name with
  | "any" => some any
  | "alphabetic" | "alpha" => some (property Unicode.alphabetic)
  | "whitespace" | "wspace" | "space" => some space
  | "n" | "number" => some (property Unicode.numeric)
  | "nd" | "decimalnumber" | "digit" => some digits
  | _ => Option.none

end CharClass

end Highlighter.Pattern
