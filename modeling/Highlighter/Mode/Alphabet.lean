/-!
# Word alphabets

The characters that make up words: ASCII letters and digits, and what a mode adds to them.  Blanks
are never part of a word.
-/

namespace Highlighter

/-- ASCII letters and digits, and further characters that are none (`WordChars`). -/
structure Alphabet where
  extra : List Char := []
  deriving DecidableEq, Repr

namespace Alphabet

/-- Whether a character is part of words (`WordChars.contains`). -/
def contains (alphabet : Alphabet) (c : Char) : Bool :=
  c.isAlphanum || alphabet.extra.contains c

/-- Adds a character, unless it is a blank or there already. -/
def insert (alphabet : Alphabet) (c : Char) : Alphabet :=
  if c = ' ' ∨ c = '\t' ∨ alphabet.contains c then alphabet else ⟨alphabet.extra ++ [c]⟩

/-- Adds characters (`WordChars.extend`). -/
def insertAll (alphabet : Alphabet) (chars : List Char) : Alphabet :=
  chars.foldl insert alphabet

/-- The ASCII letters and digits in the order of their code points (`WordChars.alphanumeric`). -/
def alphanumeric : List Char :=
  "0123456789ABCDEFGHIJKLMNOPQRSTUVWXYZabcdefghijklmnopqrstuvwxyz".toList

/-- Puts a character into an ascending list. -/
def insertAscending (c : Char) : List Char → List Char
  | [] => [c]
  | d :: rest => if c < d then c :: d :: rest else d :: insertAscending c rest

/-- The further characters in the order of their code points. -/
def sortedExtra (alphabet : Alphabet) : List Char :=
  alphabet.extra.foldr insertAscending []

/-- Every character of the alphabet in the order of their code points (`WordChars.iter`). -/
def toList (alphabet : Alphabet) : List Char :=
  alphabet.extra.foldr insertAscending alphanumeric

/-- The column behind the run of word characters that starts at a column (`WordChars.scan`). -/
def scan (alphabet : Alphabet) (line : List Char) (column : Nat) : Nat :=
  column + ((line.drop column).takeWhile alphabet.contains).length

end Alphabet

end Highlighter
