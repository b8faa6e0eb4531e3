import Highlighter.Table

/-!
# Mode files

A mode file describes one language: the delimiters of its comments and its rulesets.  A ruleset has
attributes, keywords grouped by tag and rules in the order in which they are tried.  Everything here
is as written: tags are words, patterns are texts, and nothing is checked.
-/

namespace Highlighter

/-- Where on a line a rule may start. -/
structure Anchors where
  /-- At the first column. -/
  atLineStart : Bool := false
  /-- At the first character that is not blank. -/
  atWhitespaceEnd : Bool := false
  /-- At the start of a word, and with no word character behind the opening literal. -/
  atWordStart : Bool := false
  deriving DecidableEq, Repr

/-- How the end marker of a span is looked for. -/
structure SpanFlags where
  /-- Escape characters before an end marker mean nothing. -/
  noEscape : Bool := false
  /-- The span ends on the line on which it starts. -/
  noLineBreak : Bool := false
  /-- No word character stands before the end marker. -/
  noWordBreak : Bool := false
  deriving DecidableEq, Repr

/-- A rule as written, one constructor for each kind. -/
inductive RuleSpec where
  /-- A literal. -/
  | seq (seq tag : String) (delegate : Option String) (anchors : Anchors)
  /-- A pattern. -/
  | seqRegexp (regexp tag : String) (delegate : Option String) (anchors : Anchors)
  /-- From a literal to an end marker, on this line or a later one. -/
  | span (start stop tag : String) (delegate : Option String) (excludeMatch : Bool)
      (flags : SpanFlags) (anchors : Anchors)
  /-- From a pattern to an end marker on the same line. -/
  | spanRegexp (start stop tag : String) (delegate : Option String) (excludeMatch : Bool)
      (flags : SpanFlags) (anchors : Anchors)
  /-- From a literal to the end of the line. -/
  | eolSpan (seq tag : String) (delegate : Option String) (excludeMatch : Bool)
      (anchors : Anchors)
  /-- From a pattern to the end of the line. -/
  | eolSpanRegexp (regexp tag : String) (delegate : Option String) (excludeMatch : Bool)
      (anchors : Anchors)
  /-- The words of the ruleset. -/
  | keywords
  /-- A literal and the word behind it. -/
  | markFollowing (pattern tag : String) (excludeMatch : Bool) (anchors : Anchors)
  /-- A literal and a pattern behind it. -/
  | wordAndRegexp (word wordTag pattern patternTag : String) (excludeMatch : Bool)
      (anchors : Anchors)
  deriving DecidableEq, Repr

/-- A rule with the characters that it is tried at, if the file names them. -/
structure RuleEntry where
  chars : Option String := none
  spec : RuleSpec
  deriving DecidableEq, Repr

/-- The attributes of a ruleset. -/
structure Attributes where
  /-- The tag for what no rule claims in a range that is delegated to the ruleset. -/
  default : Option String := none
  /-- The escape character; of several, the first. -/
  escape : String := ""
  /-- The pattern of numbers. -/
  digitPattern : String := ""
  highlightDigits : Bool := true
  ignoreCase : Bool := true
  /-- Further characters that do not separate words. -/
  noWordSep : String := ""
  deriving DecidableEq, Repr

/-- A ruleset as written (`RulesetSpec`). -/
structure Ruleset where
  /-- The names of the modes whose rules join these. -/
  imports : List String := []
  attributes : Attributes := {}
  /-- Words by the word for their tag, in the order of the latter. -/
  keywords : List (String × List String) := []
  rules : List RuleEntry := []
  deriving DecidableEq, Repr

/-- The delimiters of a language's comments. -/
structure CommentDelims where
  line : Option String := none
  start : Option String := none
  stop : Option String := none
  deriving DecidableEq, Repr

/-- The delimiters with spaces between them: the one for lines, then the two for blocks
(`CommentDelims.to_delims_string`).  A start without an end is no use, nor is an end without a
start. -/
def CommentDelims.text? (delims : CommentDelims) : Option String :=
  match delims.line, delims.start, delims.stop with
  | some line, some start, some stop => some (line ++ " " ++ start ++ " " ++ stop)
  | none, some start, some stop => some (start ++ " " ++ stop)
  | line, _, _ => line

/-- A mode file as written. -/
structure ModeFile where
  language : Option String := none
  delims : CommentDelims := {}
  /-- The name of the mode that takes the place of this language's modes once they are loaded. -/
  initialDelegate : Option String := none
  /-- Rulesets by name, in the order of the names. -/
  rulesets : List (String × Ruleset) := []
  deriving DecidableEq, Repr

/-- The ruleset of a name. -/
def ModeFile.ruleset? (file : ModeFile) (name : String) : Option Ruleset :=
  file.rulesets.lookup name

end Highlighter
