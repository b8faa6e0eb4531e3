import Highlighter.Pattern.Expr

/-!
# Flags of written patterns

The letters that may stand behind `(?`, and what they change in the reading of a pattern.
-/

namespace Highlighter.Pattern

/-- How the characters of a pattern are to be read. -/
structure Flags where
  /-- Letters match both cases. -/
  ignoreCase : Bool := false
  /-- `^` and `$` match at the ends of lines. -/
  multiLine : Bool := false
  /-- The dot matches a line feed too. -/
  dotAll : Bool := false
  /-- Repetitions are lazy without `?` and greedy with it. -/
  swapGreed : Bool := false
  /-- White space and comments in the pattern mean nothing. -/
  verbose : Bool := false
  deriving DecidableEq, Repr

namespace Flags

/-- Sets the flag of a letter.  Unicode is always on, so its letter changes nothing and cannot be
turned off. -/
def set? (flags : Flags) (letter : Char) (on : Bool) : Option Flags :=
  match letter with
  | 'i' => some { flags with ignoreCase := on }
  | 'm' => some { flags with multiLine := on }
  | 's' => some { flags with dotAll := on }
  | 'U' => some { flags with swapGreed := on }
  | 'x' => some { flags with verbose := on }
  | 'u' => if on then some flags else none
  | _ => none

/-- The class of one written character. -/
def literal (flags : Flags) (c : Char) : CharClass :=
  if flags.ignoreCase then .folded (.single c) else .single c

/-- The class of the dot. -/
def dot (flags : Flags) : CharClass :=
  if flags.dotAll then .any else .complement (.single '\n')

/-- The condition written `^`. -/
def caret (flags : Flags) : Assertion :=
  if flags.multiLine then .lineStart else .textStart

/-- The condition written `$`. -/
def dollar (flags : Flags) : Assertion :=
  if flags.multiLine then .lineEnd else .textEnd

/-- Whether a repetition is greedy, given whether it was written with a `?` behind it. -/
def greedy (flags : Flags) (questioned : Bool) : Bool :=
  questioned == flags.swapGreed

/-- Reads the letters of a flag group up to its `:` or `)`, which stays.  A letter may occur once,
and so may the minus sign, which must have a letter behind it. -/
def read (flags : Flags) (on : Bool) (used : List Char) :
    List Char → Option (Flags × List Char × List Char)
  | [] => none
  | c :: rest =>
    if c = ':' ∨ c = ')' then
      if used.head? = some '-' then none else some (flags, used, c :: rest)
    else if c ∈ used then none
    else if c = '-' then read flags false (c :: used) rest
    else
      match flags.set? c on with
      | some flags => read flags on (c :: used) rest
      | none => none

end Flags

/-- Drops the white space and the comments that verbose patterns may hold. -/
def skipVerbose (inComment : Bool) : List Char → List Char
  | [] => []
  | c :: rest =>
    if inComment then skipVerbose (c ≠ '\n') rest
    else if Unicode.isWhitespace c then skipVerbose false rest
    else if c = '#' then skipVerbose true rest
    else c :: rest

/-- What is left of a pattern behind white space and comments, if the flags make them mean
nothing. -/
def Flags.skip (flags : Flags) (rest : List Char) : List Char :=
  if flags.verbose then skipVerbose false rest else rest

end Highlighter.Pattern
