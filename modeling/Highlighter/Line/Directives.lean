import Highlighter.Line.Matching
import Highlighter.Line.Url

/-!
# Matching directives

The verdicts of the directives, and what becomes of a line that starts under one.  Most directives
only count at the start of a line, and never in a range that is delegated to another mode.
-/

namespace Highlighter.Line

/-- Tags a directive word. -/
def paintDirective (start stop : Nat) : Action :=
  .paint { start, stop, tag := .leoKeyword }

/-- The `@language` at the start of a line: where the name behind it ends, and what is done
(`LineRun.match_at_language`). -/
def languageDirective (line : List Char) : Nat × List Action :=
  let width := "@language".length
  let start := skipBlanks line width
  let stop := skipIdentifier line start
  (stop, [
    paintDirective 0 width,
    .switchLanguage (String.ofList ((line.take stop).drop start))])

/-- `@doc`, or `@` before a blank or the end of the line (`LineRun.match_doc_part`).  The rest of
the line belongs to the documentation part. -/
def docPartVerdict (line : List Char) : Verdict :=
  let width? :=
    if startsWithWord line "@doc" then some "@doc".length
    else
      match line with
      | '@' :: rest => if rest.head?.all isBlank then some 1 else none
      | _ => none
  match width? with
  | none => .declined
  | some width =>
    .endsLine [
      paintDirective 0 width,
      .paint { start := width, stop := line.length, tag := .docPart },
      .arm .docPart]

/-- A word behind `@`, with nothing but blanks before it and a blank or the end of the line behind
it (`LineRun.match_leo_keywords`).  A blank behind a directive word is taken along. -/
def leoKeywordsVerdict (mode : Mode) (line : List Char) (column : Nat) : Verdict :=
  if !(line.take column).all isBlank then .declined
  else
    let stop := skipWhile (fun c => mode.wordChars.contains c || c == '-') line (column + 1)
    if (Text.charAt? line stop).any (fun c => !isBlank c) then .declined
    else
      let width := min (stop - column + 1) (line.length - column)
      if Directive.leoWords.contains (String.ofList ((line.take stop).drop (column + 1))) then
        .taken width [paintDirective column stop]
      else
        match mode.keyword? ((line.take stop).drop column) with
        | some tag => .taken (stop - column) [.paint { start := column, stop, tag }]
        | none => .passed width

/-- A name between `<<` and `>>` (`LineRun.match_section_ref`). -/
def sectionRefVerdict (line : List Char) (column : Nat) : Verdict :=
  if ['<', '<'].isPrefixOf (line.drop column) then
    match find? ['>', '>'] line (column + 2) with
    | none => .declined
    | some closing =>
      .taken (closing + 2 - column) [
        .paint { start := column, stop := column + 2, tag := .nameBrackets },
        .paint { start := column + 2, stop := closing, tag := .sectionName },
        .paint { start := closing, stop := closing + 2, tag := .nameBrackets }]
  else .declined

/-- The verdict at the start of a line of a directive that only counts there
(`LineRun.match_directive` where it asks `at_line_start`). -/
def lineStartVerdict (line : List Char) : Directive → Verdict
  | .docPart => docPartVerdict line
  | .wrap =>
    if startsWithWord line "@wrap" then
      let stop := skipBlanks line "@wrap".length
      .taken stop [paintDirective 0 stop]
    else .declined
  | .noColorNode =>
    if startsWithWord line "@nocolor-node" then .endsLine [.arm .noColorNode] else .declined
  | .noColor =>
    if !"@nocolor-".toList.isPrefixOf line && startsWithWord line "@nocolor" then
      .endsLine [.arm .noColor]
    else .declined
  | .language =>
    if startsWithWord line "@language" then
      let (stop, actions) := languageDirective line
      .taken stop actions
    else .declined
  | .killColor =>
    if startsWithWord line "@killcolor" then .endsLine [.arm .killColor] else .declined
  | .color =>
    if startsWithWord line "@color" then
      .taken "@color".length [.arm .color, paintDirective 0 "@color".length]
    else .declined
  | _ => .declined

/-- The verdict of a directive at a column, in a delegated range if `nested`
(`LineRun.match_directive`). -/
def directiveVerdict (mode : Mode) (line : List Char) (column : Nat) (nested : Bool)
    (directive : Directive) : Verdict :=
  match directive with
  | .leoKeywords => leoKeywordsVerdict mode line column
  | .sectionRef => sectionRefVerdict line column
  | .url =>
    match Url.lengthAtStart (line.drop column) with
    | 0 => .declined
    | width => .taken width [.paint { start := column, stop := column + width, tag := .url }]
  | directive => if column = 0 && !nested then lineStartVerdict line directive else .declined

/-- The verdict of a matcher at a column (`LineRun.run_matcher`). -/
def matcherVerdict (mode : Mode) (line : List Char) (column : Nat) (nested : Bool) :
    Matcher → Verdict
  | .directive directive => directiveVerdict mode line column nested directive
  | .rule rule => ruleVerdict mode line column rule

/-- The verdict of the first matcher that finds something (the matchers in `LineRun.main_loop`). -/
def firstVerdict (mode : Mode) (line : List Char) (column : Nat) : List Matcher → Verdict
  | [] => .declined
  | matcher :: matchers =>
    match matcherVerdict mode line column false matcher with
    | .declined => firstVerdict mode line column matchers
    | verdict => verdict

/-- The width and the tagging of the first match in a delegated range (the matchers in
`LineRun.run_range`).  A token that is not to be tagged is no match there. -/
def firstClaim? (mode : Mode) (line : List Char) (column : Nat) :
    List Matcher → Option (Nat × List Painting)
  | [] => none
  | matcher :: matchers =>
    match matcherVerdict mode line column true matcher with
    | .taken width actions => some (width, actions.filterMap Action.painting?)
    | .endsLine actions => some (line.length - column, actions.filterMap Action.painting?)
    | _ => firstClaim? mode line column matchers

/-- What is claimed is what one of the matchers asks for, up to the end of its match. -/
theorem firstClaim?_cases {mode : Mode} {line : List Char} {column width : Nat}
    {matchers : List Matcher} {paintings : List Painting}
    (claim : firstClaim? mode line column matchers = some (width, paintings)) :
    ∃ matcher ∈ matchers, ∃ actions, paintings = actions.filterMap Action.painting? ∧
      (matcherVerdict mode line column true matcher = .taken width actions ∨
        matcherVerdict mode line column true matcher = .endsLine actions ∧
          width = line.length - column) := by
  induction matchers with
  | nil => cases claim
  | cons matcher matchers ih =>
    rw [firstClaim?] at claim
    split at claim
    · rename_i width actions taken
      cases claim
      exact ⟨matcher, List.mem_cons_self, actions, rfl, .inl taken⟩
    · rename_i actions ends
      cases claim
      exact ⟨matcher, List.mem_cons_self, actions, rfl, .inr ⟨ends, rfl⟩⟩
    · obtain ⟨other, listed, asked⟩ := ih claim
      exact ⟨other, List.mem_cons_of_mem _ listed, asked⟩

/-- The start of a line in a documentation part, which goes on up to `@c`, `@code` or `@language`
(`LineRun.restart_doc_part`). -/
def resumeDocPart (line : List Char) : Resumption :=
  let closedBy (word : String) : Resumption :=
    .at word.length [paintDirective 0 word.length, .close]
  if startsWithWord line "@language" then
    let (stop, actions) := languageDirective line
    .at stop actions
  else if startsWithWord line "@c" then closedBy "@c"
  else if startsWithWord line "@code" then closedBy "@code"
  else .done [.arm .docPart, .paint { start := 0, stop := line.length, tag := .docPart }]

/-- The start of a line after `@color` (`LineRun.restart_color`). -/
def resumeColor (line : List Char) : Resumption :=
  if startsWithWord line "@killcolor" then .done [.arm .killColor]
  else if startsWithWord line "@nocolor-node" then .done [.arm .noColorNode]
  else if startsWithWord line "@nocolor" then .done [.arm .noColor]
  else .at 0 [.arm .color]

/-- The start of a line after `@nocolor`, which holds up to `@color`
(`LineRun.restart_no_color`). -/
def resumeNoColor (line : List Char) : Resumption :=
  if startsWithWord line "@color" then
    .at "@color".length [.arm .color, paintDirective 0 "@color".length]
  else .done [.arm .noColor]

/-- What becomes of a line at its start, by what is open there (`LineRun.restart`). -/
def resume (mode : Mode) (line : List Char) : Restart → Resumption
  | .clear => .at 0 []
  | .span form => resumeSpan mode line form
  | .docPart => resumeDocPart line
  | .color => resumeColor line
  | .noColor => resumeNoColor line
  | .noColorNode => .done [.arm .noColorNode]
  | .killColor => .done [.arm .killColor]

/-! ## Words at the start of a line

Most directives are words that a line starts with.  A line does not start with two words of which
neither continues the other, nor with a directive word if it has no `@`.
-/

variable {line : List Char} {word : String}

theorem prefix_of_startsWithWord (starts : startsWithWord line word) : word.toList <+: line := by
  unfold startsWithWord at starts
  simp only [Bool.and_eq_true] at starts
  exact List.isPrefixOf_iff_prefix.mp starts.1

/-- A line that starts with a word behind `@` is not white space. -/
theorem not_white_of_startsWithWord (starts : startsWithWord line word) {rest : List Char}
    (letters : word.toList = '@' :: rest) : line.all Unicode.isWhitespace = false := by
  obtain ⟨behind, rfl⟩ := prefix_of_startsWithWord starts
  simp [letters, show Unicode.isWhitespace '@' = false by decide]

theorem startsWithWord_eq_false (starts : startsWithWord line word) (other : String)
    (apart : ¬word.toList <+: other.toList ∧ ¬other.toList <+: word.toList) :
    startsWithWord line other = false := by
  rw [Bool.eq_false_iff]
  intro both
  rcases List.prefix_or_prefix_of_prefix (prefix_of_startsWithWord starts)
    (prefix_of_startsWithWord both) with before | before
  · exact apart.1 before
  · exact apart.2 before

theorem startsWithWord_of_notMem {c : Char} (absent : c ∉ line) (word : String)
    (letter : c ∈ word.toList) : startsWithWord line word = false := by
  rw [Bool.eq_false_iff]
  intro starts
  exact absent ((prefix_of_startsWithWord starts).subset letter)

/-- A word behind `@` opens no documentation part. -/
theorem docPartVerdict_eq_declined {c : Char} {rest : List Char} (starts : startsWithWord line word)
    (apart : ¬word.toList <+: "@doc".toList ∧ ¬"@doc".toList <+: word.toList)
    (letters : word.toList = '@' :: c :: rest) (letter : isBlank c = false) :
    docPartVerdict line = .declined := by
  obtain ⟨behind, rfl⟩ := prefix_of_startsWithWord starts
  have noDoc := startsWithWord_eq_false starts "@doc" apart
  simp only [letters, List.cons_append] at noDoc ⊢
  simp [docPartVerdict, noDoc, letter]

end Highlighter.Line
