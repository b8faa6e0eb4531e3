import Highlighter.Span

/-!
# Lines for a terminal

A tagged line is shown with colours, as text between escape sequences, or as a dump, one record per
event.  Neither has an answer when a range does not cut the line between characters.
-/

namespace Highlighter

namespace Rendering

/-- A control sequence that selects a graphic rendition. -/
def rendition (parameters : String) : String :=
  "\x1b[" ++ parameters ++ "m"

/-- The sequences that bring a style on: background, foreground, then the attributes
(`Style.to_content_style`). -/
def openStyle (style : Style) : String :=
  let background := (style.background.paletteIndex?.map fun n => rendition s!"48;5;{n}").getD ""
  let foreground := (style.foreground.paletteIndex?.map fun n => rendition s!"38;5;{n}").getD ""
  background ++ foreground
    ++ (if style.bold then rendition "1" else "")
    ++ (if style.italic then rendition "3" else "")
    ++ (if style.underline then rendition "4" else "")

/-- The sequences that take a style away.  An attribute is only taken away with everything else;
colours alone are put back to the terminal's own. -/
def closeStyle (style : Style) : String :=
  if style.bold || style.italic || style.underline then rendition "0"
  else
    (if style.background.paletteIndex?.isSome then rendition "49" else "")
      ++ (if style.foreground.paletteIndex?.isSome then rendition "39" else "")

/-- A piece of a shown line. -/
inductive Piece where
  | bare (text : List Char)
  | styled (style : Style) (text : List Char)
  deriving DecidableEq, Repr

namespace Piece

/-- The text that a piece shows. -/
def text : Piece → List Char
  | bare text => text
  | styled _ text => text

/-- A piece with the sequences around it. -/
def render : Piece → String
  | bare text => String.ofList text
  | styled style text => openStyle style ++ String.ofList text ++ closeStyle style

end Piece

/-- The pieces of a line from a byte offset on: each span, and the text before it if there is any,
then the rest of the line. -/
def piecesFrom? (line : List Char) : Nat → List Span → Option (List Piece)
  | offset, [] => do
    let rest ← Text.slice? line offset (Text.byteLength line)
    some [.bare rest]
  | offset, span :: spans => do
    let before ← if offset < span.start then
        (Text.slice? line offset span.start).map fun text => [Piece.bare text]
      else some []
    let inside ← Text.slice? line span.start span.stop
    let rest ← piecesFrom? line span.stop spans
    some (before ++ .styled span.style inside :: rest)

/-- The pieces that a line with its events is shown as. -/
def pieces? (line : List Char) (events : List Event) : Option (List Piece) :=
  piecesFrom? line 0 (lineSpans (Text.byteLength line) events)

/-- A line with its events in colours, and the line feed behind it (`render_line`). -/
def colored? (line : List Char) (events : List Event) : Option String := do
  let pieces ← pieces? line events
  some (String.join (pieces.map Piece.render) ++ rendition "0" ++ "\n")

/-- The record of one event: line number from one, start, end, tag and the quoted text, separated by
tabs. -/
def record? (number : Nat) (line : List Char) (event : Event) : Option String := do
  let text ← event.slice? line
  some s!"{number + 1}\t{event.start}\t{event.stop}\t{event.tag.word}\t{Text.quoted text}\n"

/-- The records of all events of a line, which is number `number` from zero (`dump_line`). -/
def dump? (number : Nat) (line : List Char) (events : List Event) : Option String := do
  let records ← events.mapM (record? number line)
  some (String.join records)

end Rendering

end Highlighter
