import Highlighter.Pattern.Flags

/-!
# Escapes of written patterns

What a backslash and the characters behind it stand for.  References to groups and escapes without a
meaning are refused.
-/

namespace Highlighter.Pattern

/-- What one unit of a pattern stands for. -/
inductive Primitive where
  | literal (c : Char)
  | chars (set : CharClass)
  | assert (condition : Assertion)

/-- The value of a hexadecimal digit. -/
def hexValue? (c : Char) : Option Nat :=
  if '0' ≤ c ∧ c ≤ '9' then some (c.toNat - '0'.toNat)
  else if 'a' ≤ c ∧ c ≤ 'f' then some (c.toNat - 'a'.toNat + 10)
  else if 'A' ≤ c ∧ c ≤ 'F' then some (c.toNat - 'A'.toNat + 10)
  else none

/-- The number written by hexadecimal digits, of which there must be at least one. -/
def hexNumber? (digits : List Char) : Option Nat :=
  if digits.isEmpty then none
  else digits.foldlM (fun value c => (hexValue? c).map (16 * value + ·)) 0

/-- The character with a code point, if there is one. -/
def charOfCode? (code : Nat) : Option Char :=
  if code.isValidChar then some (Char.ofNat code) else none

/-- A character by its code point: a fixed number of hexadecimal digits, or any number in braces. -/
def readCodePoint (width : Nat) : List Char → Option (Primitive × List Char)
  | [] => none
  | c :: rest => do
    if c = '{' then
      let digits := rest.takeWhile (· ≠ '}')
      match rest.dropWhile (· ≠ '}') with
      | [] => none
      | _ :: behind =>
        let code ← charOfCode? (← hexNumber? digits)
        some (.literal code, behind)
    else
      let digits := (c :: rest).take width
      if digits.length < width then none
      else
        let code ← charOfCode? (← hexNumber? digits)
        some (.literal code, (c :: rest).drop width)

/-- The spelling of a property name in which names are compared. -/
def plainPropertyName (name : List Char) : String :=
  String.ofList ((name.filter fun c => c ≠ '_' ∧ c ≠ '-' ∧ c ≠ ' ').map Unicode.asciiLower)

/-- A Unicode property: one letter, or a name in braces. -/
def readProperty (negated : Bool) : List Char → Option (Primitive × List Char)
  | [] => none
  | c :: rest => do
    let (name, behind) ←
      if c = '{' then
        match rest.dropWhile (· ≠ '}') with
        | [] => none
        | _ :: behind => some (rest.takeWhile (· ≠ '}'), behind)
      else some ([c], rest)
    let set ← CharClass.unicodeProperty? (plainPropertyName name)
    some (.chars (.bracketed false negated set), behind)

/-- A word boundary, which may name in braces the side that it looks at. -/
def readBoundary (rest : List Char) : Option (Primitive × List Char) :=
  match rest with
  | '{' :: inside =>
    if (inside.head?.any fun c => c.isAlpha || c == '-') then
      match inside.dropWhile (· ≠ '}') with
      | [] => none
      | _ :: behind =>
        match String.ofList (inside.takeWhile (· ≠ '}')) with
        | "start" => some (.assert .wordStart, behind)
        | "end" => some (.assert .wordEnd, behind)
        | "start-half" => some (.assert .wordStartHalf, behind)
        | "end-half" => some (.assert .wordEndHalf, behind)
        | _ => none
    else some (.assert .wordBoundary, rest)
  | _ => some (.assert .wordBoundary, rest)

/-- What stands behind a backslash. -/
def readEscape : List Char → Option (Primitive × List Char)
  | [] => none
  | c :: rest =>
    match c with
    | 'x' => readCodePoint 2 rest
    | 'u' => readCodePoint 4 rest
    | 'U' => readCodePoint 8 rest
    | 'p' => readProperty false rest
    | 'P' => readProperty true rest
    | 'd' => some (.chars .digits, rest)
    | 'D' => some (.chars (.complement .digits), rest)
    | 's' => some (.chars .space, rest)
    | 'S' => some (.chars (.complement .space), rest)
    | 'w' => some (.chars .word, rest)
    | 'W' => some (.chars (.complement .word), rest)
    | 'a' => some (.literal '\x07', rest)
    | 'f' => some (.literal '\x0c', rest)
    | 't' => some (.literal '\t', rest)
    | 'n' => some (.literal '\n', rest)
    | 'r' => some (.literal '\r', rest)
    | 'v' => some (.literal '\x0b', rest)
    | 'A' => some (.assert .textStart, rest)
    | 'z' => some (.assert .textEnd, rest)
    | 'b' => readBoundary rest
    | 'B' => some (.assert .notWordBoundary, rest)
    | '<' => some (.assert .wordStart, rest)
    | '>' => some (.assert .wordEnd, rest)
    | _ => if c.toNat < 128 ∧ !c.isAlphanum then some (.literal c, rest) else none

end Highlighter.Pattern
