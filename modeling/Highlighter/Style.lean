/-!
# Styles

What a tag turns into on a terminal: two colours of the sixteen-colour palette and three attributes.
-/

namespace Highlighter

/-- The sixteen palette colours, and the terminal's own colour (`Color`). -/
inductive Color where
  | default
  | black | red | green | yellow | blue | magenta | cyan | white
  | brightBlack | brightRed | brightGreen | brightYellow
  | brightBlue | brightMagenta | brightCyan | brightWhite
  deriving DecidableEq, Repr

namespace Color

/-- The position of a colour in the palette; the terminal's own colour has none. -/
def paletteIndex? : Color → Option Nat
  | default => none
  | black => some 0
  | red => some 1
  | green => some 2
  | yellow => some 3
  | blue => some 4
  | magenta => some 5
  | cyan => some 6
  | white => some 7
  | brightBlack => some 8
  | brightRed => some 9
  | brightGreen => some 10
  | brightYellow => some 11
  | brightBlue => some 12
  | brightMagenta => some 13
  | brightCyan => some 14
  | brightWhite => some 15

/-- The name of a palette entry in the naming that calls the bright half of the palette plain and
the other half dark (`Color.to_terminal`). -/
def paletteName? : Color → Option String
  | default => none
  | black => some "Black"
  | red => some "DarkRed"
  | green => some "DarkGreen"
  | yellow => some "DarkYellow"
  | blue => some "DarkBlue"
  | magenta => some "DarkMagenta"
  | cyan => some "DarkCyan"
  | white => some "Grey"
  | brightBlack => some "DarkGrey"
  | brightRed => some "Red"
  | brightGreen => some "Green"
  | brightYellow => some "Yellow"
  | brightBlue => some "Blue"
  | brightMagenta => some "Magenta"
  | brightCyan => some "Cyan"
  | brightWhite => some "White"

end Color

/-- How a stretch of text looks. -/
structure Style where
  foreground : Color := .default
  background : Color := .default
  bold : Bool := false
  italic : Bool := false
  underline : Bool := false
  deriving DecidableEq, Repr

namespace Style

/-- The look of text without any styling. -/
def plain : Style := {}

/-- Whether a style changes nothing (`Style.is_default`). -/
def isPlain (style : Style) : Bool :=
  style = plain

end Style

end Highlighter
