import Highlighter.Mode.Alphabet
import Highlighter.Mode.Source
import Highlighter.Text.Basic
import Highlighter.Unicode.Case
import Highlighter.Unicode.Classes

/-!
# Looking along a line

A line is a list of characters and a place on it is a column.  These are the small questions that
matchers ask: what stands before a column, where a run of characters ends, whether a literal or a
word starts here, and whether a rule's anchors allow a place.
-/

namespace Highlighter.Line

/-- Whether a character is a space or a tab. -/
def isBlank (c : Char) : Bool :=
  c == ' ' || c == '\t'

/-- The column of the first character from a column on for which the test fails. -/
def skipWhile (test : Char → Bool) (line : List Char) (column : Nat) : Nat :=
  column + ((line.drop column).takeWhile test).length

/-- The column of the first character that is not blank (`skip_ws`). -/
def skipBlanks (line : List Char) (column : Nat) : Nat :=
  skipWhile isBlank line column

/-- The column behind the identifier that starts at a column (`skip_id`). -/
def skipIdentifier (line : List Char) (column : Nat) : Nat :=
  skipWhile Unicode.isIdentifierCharacter line column

/-- Whether a text starts with a literal, up to the case of ASCII letters if that is ignored. -/
def startsWithLiteral (ignoreCase : Bool) : (literal text : List Char) → Bool
  | [], _ => true
  | _ :: _, [] => false
  | c :: literal, d :: text =>
    (if ignoreCase then Unicode.equalIgnoringAsciiCase c d else c == d)
      && startsWithLiteral ignoreCase literal text

/-- Whether a literal starts at a column (`literal_at`). -/
def literalAt (line : List Char) (column : Nat) (literal : List Char) (ignoreCase : Bool) : Bool :=
  startsWithLiteral ignoreCase literal (line.drop column)

/-- Whether a word starts the line and no identifier goes on behind it (`match_word`). -/
def startsWithWord (line : List Char) (word : String) : Bool :=
  word.toList.isPrefixOf line
    && !(Text.charAt? line word.toList.length).any Unicode.isIdentifierCharacter

/-- The column where a text first occurs in the rest of a line, which starts at `column`. -/
def findFrom? (text : List Char) (column : Nat) : (rest : List Char) → Option Nat
  | [] => if text.isEmpty then some column else none
  | c :: rest =>
    if text.isPrefixOf (c :: rest) then some column else findFrom? text (column + 1) rest

/-- The column where a text first occurs at or behind a column. -/
def find? (text : List Char) (line : List Char) (column : Nat) : Option Nat :=
  findFrom? text column (line.drop column)

/-- Whether the anchors allow a rule to open at a column with `width` characters
(`Anchors.permits`).  A width of zero means that the extent is not known, and then nothing is asked
of what follows. -/
def anchorsPermit (anchors : Anchors) (line : List Char) (column width : Nat) (words : Alphabet) :
    Bool :=
  (!anchors.atLineStart || column == 0)
    && (!anchors.atWhitespaceEnd || column == skipBlanks line 0)
    && (!anchors.atWordStart
      || (!(Text.charBefore? line column).any words.contains
        && (width == 0 || !(Text.charAt? line (column + width)).any words.contains)))

end Highlighter.Line
