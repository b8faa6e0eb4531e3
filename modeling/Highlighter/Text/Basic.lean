import Highlighter.Unicode.Classes
import Highlighter.Unicode.Visibility

/-!
# Text

Characters at columns, lines of a text, pieces between separators and trimmed text, over lists of
characters.

Positions inside the library are columns: numbers of characters from the start of the line.
Positions that leave the library are offsets into the UTF-8 form.  An offset that falls inside a
character has no column.

Dumps and descriptions of states show text in double quotes, with the characters spelled out that
would break the quotes or that have no visible form of their own.
-/

namespace Highlighter.Text

/-- The character at a column. -/
def charAt? (text : List Char) (column : Nat) : Option Char :=
  (text.drop column).head?

/-- The character before a column (`prev_char`). -/
def charBefore? (text : List Char) (column : Nat) : Option Char :=
  if column = 0 then none else charAt? text (column - 1)

/-- A text without the white space at its two ends. -/
def trim (text : List Char) : List Char :=
  let started := text.dropWhile Unicode.isWhitespace
  (started.reverse.dropWhile Unicode.isWhitespace).reverse

/-- The pieces of a text between the occurrences of a separator, one more than there are of
them. -/
def splitAll (separator : Char) : List Char → List (List Char)
  | [] => [[]]
  | c :: rest =>
    match splitAll separator rest with
    | [] => [[c]]
    | piece :: pieces =>
      if c = separator then [] :: piece :: pieces else (c :: piece) :: pieces

/-- The text before the first occurrence of a separator and the text behind it, if it occurs. -/
def splitFirst? (separator : List Char) : List Char → Option (List Char × List Char)
  | [] => if separator.isEmpty then some ([], []) else none
  | c :: rest =>
    if separator.isPrefixOf (c :: rest) then some ([], (c :: rest).drop separator.length)
    else (splitFirst? separator rest).map fun (before, behind) => (c :: before, behind)

/-- A line without the carriage return at its end. -/
def dropCarriageReturn (line : List Char) : List Char :=
  if line.getLast? = some '\r' then line.dropLast else line

/-- The lines of a text.  A line feed ends a line and takes a carriage return before it along; what
follows the last line feed is a line unless it is empty. -/
def lines (text : List Char) : List (List Char) :=
  let pieces := splitAll '\n' text
  let ended := pieces.dropLast.map dropCarriageReturn
  match pieces.getLast? with
  | some [] => ended
  | some last => ended ++ [last]
  | none => ended

/-! ## Byte offsets -/

/-- The number of bytes of a text in UTF-8. -/
def byteLength (text : List Char) : Nat :=
  text.foldr (fun c length => c.utf8Size + length) 0

/-- The byte offset at which a column of a line starts. -/
def byteOffset (line : List Char) (column : Nat) : Nat :=
  byteLength (line.take column)

/-- The column that starts at a byte offset, unless the offset falls inside a character or beyond
the end. -/
def columnAt? : List Char → Nat → Option Nat
  | _, 0 => some 0
  | [], _ + 1 => none
  | c :: rest, offset + 1 =>
    if c.utf8Size ≤ offset + 1 then
      (columnAt? rest (offset + 1 - c.utf8Size)).map (· + 1)
    else none

/-- The text between two byte offsets, unless they are out of order, fall inside a character or lie
beyond the end. -/
def slice? (text : List Char) (start stop : Nat) : Option (List Char) := do
  let first ← columnAt? text start
  let last ← columnAt? text stop
  if start ≤ stop then some ((text.take last).drop first) else none

/-! ## Quoted text -/

/-- A character by its code point, in lower-case hexadecimal digits. -/
def spelledOut (c : Char) : List Char :=
  ['\\', 'u', '{'] ++ Nat.toDigits 16 c.toNat ++ ['}']

/-- One character inside double quotes. -/
def quotedChar (c : Char) : List Char :=
  if c = '\x00' then ['\\', '0']
  else if c = '\t' then ['\\', 't']
  else if c = '\r' then ['\\', 'r']
  else if c = '\n' then ['\\', 'n']
  else if c = '"' then ['\\', '"']
  else if c = '\\' then ['\\', '\\']
  else if Unicode.graphemeExtend.contains c || Unicode.unprintable.contains c then spelledOut c
  else [c]

/-- A text in double quotes. -/
def quoted (text : List Char) : String :=
  String.ofList (['"'] ++ text.flatMap quotedChar ++ ['"'])

end Highlighter.Text
