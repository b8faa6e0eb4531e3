import Highlighter.Line.Scan

/-!
# The end of a span

A span ends at the first occurrence of its end marker that no escape character takes away.  Two
flags make the search fail instead: an occurrence behind a word character, and an occurrence on a
later line than the start.
-/

namespace Highlighter.Line

/-- What the search for an end marker comes to. -/
inductive SpanEnd where
  /-- The end marker starts at this column. -/
  | found (column : Nat)
  /-- There is none, and the span goes on. -/
  | notFound
  /-- There is no such span. -/
  | failed
  deriving DecidableEq, Repr

namespace SpanEnd

/-- What the search knows about the text before a column. -/
structure Past where
  column : Nat
  before : Option Char
  /-- The number of escape characters directly before the column. -/
  escapes : Nat
  /-- A line feed stands between the start of the search and the column. -/
  brokeLine : Bool

/-- The past of the next column. -/
def Past.next (past : Past) (escape : Option Char) (c : Char) : Past where
  column := past.column + 1
  before := some c
  escapes := if escape = some c then past.escapes + 1 else 0
  brokeLine := past.brokeLine || c == '\n'

/-- The answer at an occurrence of the end marker, unless the occurrence is escaped. -/
def atMarker? (escape : Option Char) (flags : SpanFlags) (words : Alphabet) (past : Past) :
    Option SpanEnd :=
  if flags.noWordBreak && past.before.any words.contains then some failed
  else if flags.noLineBreak && past.brokeLine then some failed
  else if escape.isSome && !flags.noEscape && past.escapes % 2 == 1 then none
  else some (found past.column)

/-- Looks at every place of the rest of a line in order (the loop of `find_span_end`). -/
def search (stop : List Char) (escape : Option Char) (flags : SpanFlags) (words : Alphabet)
    (past : Past) (rest : List Char) : SpanEnd :=
  let here := if stop.isPrefixOf rest then atMarker? escape flags words past else none
  match here, rest with
  | some answer, _ => answer
  | none, [] => if flags.noLineBreak then failed else notFound
  | none, c :: rest => search stop escape flags words (past.next escape c) rest

end SpanEnd

/-- The end of a span whose inside starts at a column (`find_span_end`). -/
def findSpanEnd (line : List Char) (start : Nat) (stop : List Char) (escape : Option Char)
    (flags : SpanFlags) (words : Alphabet) : SpanEnd :=
  SpanEnd.search stop escape flags words
    { column := start
      before := Text.charBefore? line start
      escapes := ((line.take start).reverse.takeWhile fun c => escape = some c).length
      brokeLine := false }
    (line.drop start)

end Highlighter.Line
