import Highlighter.Mode.Source
import Highlighter.Toml.Document

/-!
# Reading mode files

A mode file is a document of tables.  Missing fields take their defaults, fields that nothing asks
for are ignored, and a field of the wrong type or a missing part of a rule makes the whole file
unreadable.
-/

namespace Highlighter

open Toml (Value)

namespace Mode.Decoding

/-- The entries of a record. -/
abbrev Fields := List (String × Value)

/-- A field that may be missing. -/
def field {α : Type} (fields : Fields) (name : String) (decode : Value → Option α) (missing : α) :
    Option α :=
  match fields.lookup name with
  | some value => decode value
  | none => some missing

/-- A text that may be missing. -/
def optionalText (fields : Fields) (name : String) : Option (Option String) :=
  field fields name (fun value => value.string?.map some) none

/-- A text that has to be there. -/
def text (fields : Fields) (name : String) : Option String := do
  (← fields.lookup name).string?

/-- A truth value, false if it is missing. -/
def flag (fields : Fields) (name : String) : Option Bool :=
  field fields name Value.boolean? false

/-- An array of texts. -/
def texts (value : Value) : Option (List String) := do
  (← value.array?).mapM Value.string?

/-- The anchors among the fields of a rule. -/
def anchors (fields : Fields) : Option Anchors := do
  some {
    atLineStart := ← flag fields "at_line_start"
    atWhitespaceEnd := ← flag fields "at_whitespace_end"
    atWordStart := ← flag fields "at_word_start" }

/-- The span flags among the fields of a rule. -/
def spanFlags (fields : Fields) : Option SpanFlags := do
  some {
    noEscape := ← flag fields "no_escape"
    noLineBreak := ← flag fields "no_line_break"
    noWordBreak := ← flag fields "no_word_break" }

/-- A rule of the kind that its fields name. -/
def ruleSpec (fields : Fields) : Option RuleSpec := do
  match ← text fields "kind" with
  | "seq" =>
    some (.seq (← text fields "seq") (← text fields "tag") (← optionalText fields "delegate")
      (← anchors fields))
  | "seq_regexp" =>
    some (.seqRegexp (← text fields "regexp") (← text fields "tag")
      (← optionalText fields "delegate") (← anchors fields))
  | "span" =>
    some (.span (← text fields "begin") (← text fields "end") (← text fields "tag")
      (← optionalText fields "delegate") (← flag fields "exclude_match") (← spanFlags fields)
      (← anchors fields))
  | "span_regexp" =>
    some (.spanRegexp (← text fields "begin") (← text fields "end") (← text fields "tag")
      (← optionalText fields "delegate") (← flag fields "exclude_match") (← spanFlags fields)
      (← anchors fields))
  | "eol_span" =>
    some (.eolSpan (← text fields "seq") (← text fields "tag") (← optionalText fields "delegate")
      (← flag fields "exclude_match") (← anchors fields))
  | "eol_span_regexp" =>
    some (.eolSpanRegexp (← text fields "regexp") (← text fields "tag")
      (← optionalText fields "delegate") (← flag fields "exclude_match") (← anchors fields))
  | "keywords" => some .keywords
  | "mark_following" =>
    some (.markFollowing (← text fields "pattern") (← text fields "tag")
      (← flag fields "exclude_match") (← anchors fields))
  | "word_and_regexp" =>
    some (.wordAndRegexp (← text fields "word") (← text fields "word_tag")
      (← text fields "pattern") (← text fields "pattern_tag") (← flag fields "exclude_match")
      (← anchors fields))
  | _ => none

/-- A rule with its leading characters.  A moment has no fields, and so no kind. -/
def ruleEntry (value : Value) : Option RuleEntry := do
  let fields ← value.table?
  some { chars := ← optionalText fields "chars", spec := ← ruleSpec fields }

/-- The attributes of a ruleset. -/
def attributes (value : Value) : Option Attributes := do
  let fields ← value.record?
    ["default", "escape", "digit_re", "highlight_digits", "ignore_case", "no_word_sep"]
  some {
    default := ← optionalText fields "default"
    escape := ← field fields "escape" Value.string? ""
    digitPattern := ← field fields "digit_re" Value.string? ""
    highlightDigits := ← field fields "highlight_digits" Value.boolean? true
    ignoreCase := ← field fields "ignore_case" Value.boolean? true
    noWordSep := ← field fields "no_word_sep" Value.string? "" }

/-- Keywords by the word for their tag. -/
def keywords (value : Value) : Option (List (String × List String)) := do
  let groups ← (← value.table?).mapM fun (tag, words) => do some (tag, ← texts words)
  some (sortByKey groups)

/-- A ruleset. -/
def ruleset (value : Value) : Option Ruleset := do
  let fields ← value.record? ["imports", "attributes", "keywords", "rules"]
  some {
    imports := ← field fields "imports" texts []
    attributes := ← field fields "attributes" attributes {}
    keywords := ← field fields "keywords" keywords []
    rules := ← field fields "rules" (fun value => do (← value.array?).mapM ruleEntry) [] }

/-- The properties of a language: its delimiters and its initial delegate. -/
def properties (value : Value) : Option (CommentDelims × Option String) := do
  let fields ← value.record? ["line_comment", "comment_start", "comment_end", "initial_delegate"]
  let delims : CommentDelims := {
    line := ← optionalText fields "line_comment"
    start := ← optionalText fields "comment_start"
    stop := ← optionalText fields "comment_end" }
  some (delims, ← optionalText fields "initial_delegate")

/-- Rulesets by name. -/
def rulesets (value : Value) : Option (List (String × Ruleset)) := do
  let named ← (← value.table?).mapM fun (name, value) => do some (name, ← ruleset value)
  some (sortByKey named)

end Mode.Decoding

open Mode.Decoding in
/-- The mode file that a text describes, if the text is readable. -/
def ModeFile.read? (source : String) : Option ModeFile := do
  let fields ← Toml.Document.read? source
  let (delims, initialDelegate) ← field fields "properties" properties ({}, none)
  some {
    language := ← optionalText fields "language"
    delims
    initialDelegate
    rulesets := ← field fields "rulesets" Mode.Decoding.rulesets [] }

end Highlighter
