/-!
# Text of a document

White space, line ends, comments and quoted strings.  A reader takes the characters that are left
and gives back what it read with the rest, or nothing if the text is not well formed.
-/

namespace Highlighter.Toml

/-- A function that reads something from the front of a text. -/
abbrev Reader (α : Type) := List Char → Option (α × List Char)

/-- White space within a line. -/
def isBlank (c : Char) : Bool :=
  c == ' ' || c == '\t'

/-- What comments and strings may hold: any character but the controls other than the tab. -/
def isTextChar (c : Char) : Bool :=
  c == '\t' || (' ' ≤ c && c ≠ '\x7f')

/-- What is left behind white space within a line. -/
def skipBlanks (text : List Char) : List Char :=
  text.dropWhile isBlank

/-- What is left behind white space, line ends and comments.  It stops at a character that none of
them may hold. -/
def skipTrivia (inComment : Bool) : List Char → List Char
  | [] => []
  | '\n' :: rest => skipTrivia false rest
  | '\r' :: '\n' :: rest => skipTrivia false rest
  | c :: rest =>
    if inComment && isTextChar c then skipTrivia true rest
    else if !inComment && isBlank c then skipTrivia false rest
    else if !inComment && c == '#' then skipTrivia true rest
    else c :: rest

/-- Reads the end of a line, which may be the end of the text, behind blanks and a comment. -/
def skipLineEnd? (text : List Char) : Option (List Char) :=
  let rest :=
    match skipBlanks text with
    | '#' :: comment => comment.dropWhile isTextChar
    | rest => rest
  match rest with
  | [] => some []
  | '\n' :: rest => some rest
  | '\r' :: '\n' :: rest => some rest
  | _ => none

/-- The character of a one-letter escape. -/
def shortEscape? : Char → Option Char
  | 'b' => some '\x08'
  | 't' => some '\t'
  | 'n' => some '\n'
  | 'f' => some '\x0c'
  | 'r' => some '\r'
  | '"' => some '"'
  | '\\' => some '\\'
  | _ => none

/-- The value of a hexadecimal digit. -/
def hexDigit? (c : Char) : Option Nat :=
  if c.isDigit then some (c.toNat - '0'.toNat)
  else if 'a' ≤ c ∧ c ≤ 'f' then some (c.toNat - 'a'.toNat + 10)
  else if 'A' ≤ c ∧ c ≤ 'F' then some (c.toNat - 'A'.toNat + 10)
  else none

/-- The character whose code point is written by hexadecimal digits. -/
def charOfHex? (digits : List Char) : Option Char := do
  let code ← digits.foldlM (fun value c => (hexDigit? c).map (16 * value + ·)) 0
  if code.isValidChar then some (Char.ofNat code) else none

/-- The character of an escape, behind its backslash. -/
def readEscape : Reader Char
  | 'u' :: rest => do
    if rest.length < 4 then none else some (← charOfHex? (rest.take 4), rest.drop 4)
  | 'U' :: rest => do
    if rest.length < 8 then none else some (← charOfHex? (rest.take 8), rest.drop 8)
  | c :: rest => do some (← shortEscape? c, rest)
  | [] => none

/-- Reads the inside of a string in double quotes and the quote behind it.  Every step takes a
character, so the length of the text suffices as `fuel`. -/
def readBasic : (fuel : Nat) → Reader (List Char)
  | 0, _ => none
  | _ + 1, [] => none
  | _ + 1, '"' :: rest => some ([], rest)
  | fuel + 1, '\\' :: rest => do
    let (c, rest) ← readEscape rest
    let (text, rest) ← readBasic fuel rest
    some (c :: text, rest)
  | fuel + 1, c :: rest => do
    if isTextChar c then
      let (text, rest) ← readBasic fuel rest
      some (c :: text, rest)
    else none

/-- Reads the inside of a string in single quotes and the quote behind it. -/
def readLiteral : Reader (List Char)
  | [] => none
  | '\'' :: rest => some ([], rest)
  | c :: rest => do
    if isTextChar c then
      let (text, rest) ← readLiteral rest
      some (c :: text, rest)
    else none

/-- What is left behind white space and line ends. -/
def skipWhiteSpace : List Char → List Char
  | [] => []
  | '\r' :: '\n' :: rest => skipWhiteSpace rest
  | c :: rest => if isBlank c || c == '\n' then skipWhiteSpace rest else c :: rest

/-- What is left behind a line end and all white space after it, if a line end comes first. -/
def skipJoinedLines? (text : List Char) : Option (List Char) :=
  match skipBlanks text with
  | '\n' :: rest => some (skipWhiteSpace rest)
  | '\r' :: '\n' :: rest => some (skipWhiteSpace rest)
  | _ => none

/-- The quotes that belong to a string over several lines although its end is at hand: up to two
may stand directly before the three that close it. -/
def readClosingQuotes (quote : Char) : List Char → List Char × List Char
  | c :: d :: rest =>
    if c = quote then if d = quote then ([c, d], rest) else ([c], d :: rest)
    else ([], c :: d :: rest)
  | [c] => if c = quote then ([c], []) else ([], [c])
  | [] => ([], [])

/-- Reads the inside of a string over several lines and the three quotes behind it.  A line end is
read as a line feed; in double quotes a backslash at the end of a line joins it with the next text.
Every step takes a character, so the length of the text suffices as `fuel`. -/
def readLong (quote : Char) : (fuel : Nat) → Reader (List Char)
  | 0, _ => none
  | _ + 1, [] => none
  | fuel + 1, c :: rest => do
    if c = quote then
      match rest with
      | d :: e :: behind =>
        if d = quote ∧ e = quote then some (readClosingQuotes quote behind)
        else
          let (text, rest) ← readLong quote fuel rest
          some (c :: text, rest)
      | _ => none
    else if c = '\\' ∧ quote = '"' then
      match skipJoinedLines? rest with
      | some rest => readLong quote fuel rest
      | none =>
        let (c, rest) ← readEscape rest
        let (text, rest) ← readLong quote fuel rest
        some (c :: text, rest)
    else if c = '\r' then
      match rest with
      | '\n' :: rest =>
        let (text, rest) ← readLong quote fuel rest
        some ('\n' :: text, rest)
      | _ => none
    else if c = '\n' ∨ isTextChar c then
      let (text, rest) ← readLong quote fuel rest
      some (c :: text, rest)
    else none

/-- The text behind the opening quotes of a string over several lines, less a line end right
there. -/
def skipFirstLineEnd : List Char → List Char
  | '\n' :: rest => rest
  | '\r' :: '\n' :: rest => rest
  | rest => rest

/-- Reads a string of any of the four kinds. -/
def readString : Reader String
  | '"' :: '"' :: '"' :: rest => do
    let (text, rest) ← readLong '"' (rest.length + 1) (skipFirstLineEnd rest)
    some (String.ofList text, rest)
  | '\'' :: '\'' :: '\'' :: rest => do
    let (text, rest) ← readLong '\'' (rest.length + 1) (skipFirstLineEnd rest)
    some (String.ofList text, rest)
  | '"' :: rest => do
    let (text, rest) ← readBasic (rest.length + 1) rest
    some (String.ofList text, rest)
  | '\'' :: rest => do
    let (text, rest) ← readLiteral rest
    some (String.ofList text, rest)
  | _ => none

end Highlighter.Toml
