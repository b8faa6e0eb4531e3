import Highlighter.Style

/-!
# Tags

The categories that ranges of a line are tagged with.  A tag is symbolic; `Tag.style` gives the look
that a terminal shows for it.
-/

namespace Highlighter

/-- The category of a range of a line. -/
inductive Tag where
  | comment1 | comment2 | comment3 | comment4
  | function
  | keyword1 | keyword2 | keyword3 | keyword4 | keyword5
  | label
  | literal1 | literal2 | literal3 | literal4
  | markup
  | operator
  /-- A number recognised as a word of digits. -/
  | digit
  /-- A Leo directive such as `@language`. -/
  | leoKeyword
  /-- The body of a documentation part. -/
  | docPart
  | link
  /-- The name inside `<<` and `>>`. -/
  | sectionName
  /-- The `<<` and `>>` of a section reference. -/
  | nameBrackets
  | url
  | blank
  | tab
  /-- Plain text, which is never reported. -/
  | null
  deriving DecidableEq, Repr

namespace Tag

/-- Every tag, in the order of their declaration (`ALL`). -/
def all : List Tag :=
  [comment1, comment2, comment3, comment4, function, keyword1, keyword2, keyword3, keyword4,
    keyword5, label, literal1, literal2, literal3, literal4, markup, operator, digit, leoKeyword,
    docPart, link, sectionName, nameBrackets, url, blank, tab, null]

/-- The word for a tag in mode files and in output (`Tag.name`). -/
def word : Tag → String
  | comment1 => "comment1"
  | comment2 => "comment2"
  | comment3 => "comment3"
  | comment4 => "comment4"
  | function => "function"
  | keyword1 => "keyword1"
  | keyword2 => "keyword2"
  | keyword3 => "keyword3"
  | keyword4 => "keyword4"
  | keyword5 => "keyword5"
  | label => "label"
  | literal1 => "literal1"
  | literal2 => "literal2"
  | literal3 => "literal3"
  | literal4 => "literal4"
  | markup => "markup"
  | operator => "operator"
  | digit => "digit"
  | leoKeyword => "leokeyword"
  | docPart => "docpart"
  | link => "link"
  | sectionName => "name"
  | nameBrackets => "namebrackets"
  | url => "url"
  | blank => "blank"
  | tab => "tab"
  | null => "null"

/-- The tag for a word in any mixture of ASCII capitals and small letters (`Tag.from_name`). -/
def ofWord? (word : String) : Option Tag :=
  all.find? fun tag => tag.word = word.toLower

/-- The look of a tag on a terminal (`Tag.default_style`). -/
def style : Tag → Style
  | comment1 | comment2 => { foreground := .red, italic := true }
  | comment3 | comment4 => { foreground := .brightRed, italic := true }
  | function => { foreground := .brightBlue }
  | keyword1 => { foreground := .blue, bold := true }
  | keyword2 => { foreground := .blue }
  | keyword3 | keyword4 | keyword5 => { foreground := .cyan }
  | label => { foreground := .yellow, underline := true }
  | literal1 | literal2 => { foreground := .green }
  | literal3 | literal4 => { foreground := .brightGreen }
  | markup => { foreground := .red, bold := true }
  | operator => { foreground := .brightWhite }
  | digit => { foreground := .cyan }
  | leoKeyword => { foreground := .blue, bold := true }
  | docPart => { foreground := .red }
  | link => { foreground := .red, underline := true }
  | sectionName => { foreground := .red }
  | nameBrackets => { foreground := .blue }
  | url => { foreground := .magenta, underline := true }
  | blank | tab => { background := .brightBlack }
  | null => .plain

end Tag

end Highlighter
