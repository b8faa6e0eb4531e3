import Highlighter.Line.SpanEnd
import Highlighter.Line.Verdict

/-!
# Matching rules

The verdicts of rules, and of a span that was left open.
-/

namespace Highlighter.Line

/-- The number of characters that the opening of a rule takes at a column, if it is there and its
anchors allow the place (`literal_at` or `regex_len_at`, then `Anchors.permits`). -/
def openingWidth? (mode : Mode) (line : List Char) (column : Nat) (opener : Opener)
    (anchors : Anchors) : Option Nat :=
  match opener with
  | .literal text =>
    if literalAt line column text mode.ignoreCase
        && anchorsPermit anchors line column text.length mode.wordChars then
      some text.length
    else none
  | .pattern pattern =>
    if anchorsPermit anchors line column 0 mode.wordChars then
      match pattern.lengthAt line column with
      | 0 => none
      | width => some width
    else none

/-- A span whose opening is `[column, inside)` (`LineRun.match_span`). -/
def spanVerdict (mode : Mode) (line : List Char) (column inside : Nat) (form : SpanForm) :
    Verdict :=
  match findSpanEnd line inside form.stop mode.escape form.flags mode.wordChars with
  | .failed => .declined
  | .found closing =>
    let stop := closing + form.stop.length
    .taken (stop - column) (paintSpan form column inside closing stop ++ [.close])
  | .notFound =>
    .endsLine (paintSpan form column inside line.length line.length ++ [.arm (.span form)])

/-- A span on one line whose opening is `[column, inside)` (`LineRun.match_span_regexp`).  Only the
first end marker counts, and an escape character before it means that there is no span. -/
def enclosedVerdict (mode : Mode) (line : List Char) (column inside : Nat) (form : SpanForm) :
    Verdict :=
  match find? form.stop line inside with
  | none => .declined
  | some closing =>
    let escapes := ((line.take closing).reverse.takeWhile fun c => mode.escape = some c).length
    if !form.flags.noEscape && escapes % 2 == 1 then .declined
    else
      let stop := closing + form.stop.length
      .taken (stop - column) (paintSpan form column inside closing stop)

/-- The rest of a line behind an opening `[column, inside)` (`LineRun.match_eol_span`). -/
def restOfLineVerdict (line : List Char) (column inside : Nat) (tag : Tag)
    (delegate : Option String) (excludeMatch : Bool) : Verdict :=
  .taken (line.length - column) <|
    match delegate with
    | some name => [
        .paint { start := column, stop := inside, tag, silent := excludeMatch },
        .paint { start := inside, stop := line.length, tag, delegate := some name }]
    | none =>
      let start := if excludeMatch then inside else column
      [.paint { start, stop := line.length, tag }]

/-- What follows an opening `[column, inside)` (`LineRun.match_seq`, `LineRun.match_mark_following`
and other arms of `LineRun.match_rule`). -/
def bodyVerdict (mode : Mode) (line : List Char) (column inside : Nat) : Body → Verdict
  | .token tag delegate =>
    .taken (inside - column) [.paint { start := column, stop := inside, tag, delegate }]
  | .span form => spanVerdict mode line column inside form
  | .enclosed form => enclosedVerdict mode line column inside form
  | .restOfLine tag delegate excludeMatch =>
    restOfLineVerdict line column inside tag delegate excludeMatch
  | .nextWord tag excludeMatch =>
    let stop := mode.wordChars.scan line inside
    if stop = inside then .declined
    else
      .taken (stop - column) [
        .paint { start := column, stop := inside, tag, silent := excludeMatch },
        .paint { start := inside, stop, tag }]
  | .patternBehind tag pattern patternTag excludeMatch =>
    match pattern.lengthAt line inside with
    | 0 => .declined
    | width =>
      .taken (inside + width - column) [
        .paint { start := column, stop := inside, tag, silent := excludeMatch },
        .paint { start := inside, stop := inside + width, tag := patternTag }]

/-- The word that starts at a column, tagged as a keyword or a number or passed over
(`LineRun.match_keywords`).  Inside a word nothing is looked up. -/
def keywordsVerdict (mode : Mode) (line : List Char) (column : Nat) : Verdict :=
  if (Text.charBefore? line column).any mode.wordChars.contains then .declined
  else
    let stop := mode.keywordChars.scan line column
    if stop = column then .declined
    else
      let word := (line.take stop).drop column
      match mode.keyword? word with
      | some tag => .taken (stop - column) [.paint { start := column, stop, tag }]
      | none =>
        if mode.isDigitWord word then
          .taken (stop - column) [.paint { start := column, stop, tag := .digit }]
        else .passed (stop - column)

/-- The verdict of a rule at a column (`LineRun.match_rule`).  A rule that could not be compiled
matches nothing. -/
def ruleVerdict (mode : Mode) (line : List Char) (column : Nat) (rule : Rule) : Verdict :=
  match rule.form with
  | none => .declined
  | some .keywords => keywordsVerdict mode line column
  | some (.led opener anchors body) =>
    match openingWidth? mode line column opener anchors with
    | none => .declined
    | some width => bodyVerdict mode line column (column + width) body

/-- The start of a line inside a span (`LineRun.restart_span`).  The span ends at its end marker or
goes on for another line. -/
def resumeSpan (mode : Mode) (line : List Char) (form : SpanForm) : Resumption :=
  match findSpanEnd line 0 form.stop mode.escape form.flags mode.wordChars with
  | .found closing =>
    let stop := closing + form.stop.length
    .at stop (paintSpan form 0 0 closing stop ++ [.close])
  | _ => .done (paintSpan form 0 0 line.length line.length ++ [.arm (.span form)])

end Highlighter.Line
