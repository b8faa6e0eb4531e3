import Highlighter.Unicode.Classes

/-!
# Addresses

An address is the name of a protocol, `://`, and text without white space and quotes that ends in a
word character, an equals sign or a slash and has at least one character before that.
-/

namespace Highlighter.Line.Url

/-- The protocols that addresses start with. -/
def protocols : List String := [
  "file", "ftp", "gopher", "http", "https", "mailto", "news", "nntp", "prospero", "telnet", "wais"]

/-- Whether a character may stand in an address behind the protocol. -/
def isInside (c : Char) : Bool :=
  !Unicode.isWhitespace c && c != '\'' && c != '"'

/-- Whether an address may end in a character. -/
def isLast (c : Char) : Bool :=
  Unicode.isWordCharacter c || c == '=' || c == '/'

/-- The length of the longest address without its protocol at the front of a text. -/
def lengthBehindProtocol (text : List Char) : Nat :=
  let longest := ((text.takeWhile isInside).reverse.dropWhile fun c => !isLast c).length
  if longest < 2 then 0 else longest

/-- The length of the address at the front of a text, and 0 if there is none (`URL_REGEX`). -/
def lengthAtStart (text : List Char) : Nat :=
  match protocols.find? fun protocol => (protocol ++ "://").toList.isPrefixOf text with
  | none => 0
  | some protocol =>
    let width := protocol.length + 3
    match lengthBehindProtocol (text.drop width) with
    | 0 => 0
    | length => width + length

/-- The addresses in a text from left to right, each starting behind the one before it, as columns
of start and end.  `column` is where the text starts, and the first `skip` characters are taken. -/
def findFrom (column skip : Nat) : List Char → List (Nat × Nat)
  | [] => []
  | c :: rest =>
    match skip with
    | skip + 1 => findFrom (column + 1) skip rest
    | 0 =>
      match lengthAtStart (c :: rest) with
      | 0 => findFrom (column + 1) 0 rest
      | width + 1 => (column, column + width + 1) :: findFrom (column + 1) width rest

/-- The addresses in the range `[start, stop)` of a line, which is all that they may look at. -/
def findIn (line : List Char) (start stop : Nat) : List (Nat × Nat) :=
  findFrom start 0 ((line.take stop).drop start)

end Highlighter.Line.Url
