import Highlighter.Tag
import Highlighter.Mode.Alphabet
import Highlighter.Mode.Source
import Highlighter.Pattern.Matching

/-!
# Rules

A rule that is ready to run opens with a literal or a pattern, at a place that its anchors allow,
and has a body that says what happens behind the opening.  A rule that names an unknown tag, has an
empty literal or a pattern that cannot be read never matches, but keeps its place among the others.
-/

namespace Highlighter

/-- How a rule recognises its start. -/
inductive Opener where
  | literal (text : List Char)
  | pattern (pattern : Pattern)

/-- How a span ends and is coloured: all that a later line needs to go on with it
(`SpanRestart`). -/
structure SpanForm where
  /-- The end marker. -/
  stop : List Char
  tag : Tag
  /-- The mode that tags the inside. -/
  delegate : Option String := none
  /-- The two markers stay untagged. -/
  excludeMatch : Bool := false
  flags : SpanFlags := {}
  deriving DecidableEq, Repr

/-- What follows the opening of a rule. -/
inductive Body where
  /-- Nothing: the opening is all. -/
  | token (tag : Tag) (delegate : Option String)
  /-- Text up to an end marker, on this line or a later one. -/
  | span (form : SpanForm)
  /-- Text up to an end marker on the same line. -/
  | enclosed (form : SpanForm)
  /-- The rest of the line. -/
  | restOfLine (tag : Tag) (delegate : Option String) (excludeMatch : Bool)
  /-- The next word. -/
  | nextWord (tag : Tag) (excludeMatch : Bool)
  /-- A match of a pattern. -/
  | patternBehind (tag : Tag) (pattern : Pattern) (patternTag : Tag) (excludeMatch : Bool)

/-- What a rule does, once its texts are understood (`CompiledRule`). -/
inductive RuleForm where
  | keywords
  | led (opener : Opener) (anchors : Anchors) (body : Body)

/-- A rule as written, with what it does if that could be made out. -/
structure Rule where
  spec : RuleSpec
  form : Option RuleForm

namespace Rule

/-- A literal, which must not be empty (`non_empty`). -/
def literal? (text : String) : Option (List Char) :=
  if text.toList.isEmpty then none else some text.toList

/-- A span from the texts of a rule. -/
def spanForm? (stop tag : String) (delegate : Option String) (excludeMatch : Bool)
    (flags : SpanFlags) : Option SpanForm := do
  some ⟨← literal? stop, ← Tag.ofWord? tag, delegate, excludeMatch, flags⟩

/-- What a rule does, unless one of its texts is no use (`compile_spec`). -/
def form? (ignoreCase : Bool) : RuleSpec → Option RuleForm
  | .seq seq tag delegate anchors => do
    some (.led (.literal (← literal? seq)) anchors (.token (← Tag.ofWord? tag) delegate))
  | .seqRegexp regexp tag delegate anchors => do
    some (.led (.pattern (← Pattern.ofSource? ignoreCase regexp)) anchors
      (.token (← Tag.ofWord? tag) delegate))
  | .span start stop tag delegate excludeMatch flags anchors => do
    some (.led (.literal (← literal? start)) anchors
      (.span (← spanForm? stop tag delegate excludeMatch flags)))
  | .spanRegexp start stop tag delegate excludeMatch flags anchors => do
    some (.led (.pattern (← Pattern.ofSource? ignoreCase start)) anchors
      (.enclosed (← spanForm? stop tag delegate excludeMatch flags)))
  | .eolSpan seq tag delegate excludeMatch anchors => do
    some (.led (.literal (← literal? seq)) anchors
      (.restOfLine (← Tag.ofWord? tag) delegate excludeMatch))
  | .eolSpanRegexp regexp tag delegate excludeMatch anchors => do
    some (.led (.pattern (← Pattern.ofSource? ignoreCase regexp)) anchors
      (.restOfLine (← Tag.ofWord? tag) delegate excludeMatch))
  | .keywords => some .keywords
  | .markFollowing pattern tag excludeMatch anchors => do
    some (.led (.literal (← literal? pattern)) anchors
      (.nextWord (← Tag.ofWord? tag) excludeMatch))
  | .wordAndRegexp word wordTag pattern patternTag excludeMatch anchors => do
    some (.led (.literal (← literal? word)) anchors
      (.patternBehind (← Tag.ofWord? wordTag) (← Pattern.ofSource? ignoreCase pattern)
        (← Tag.ofWord? patternTag) excludeMatch))

/-- A rule that is ready to run (`Rule.compile`). -/
def compile (ignoreCase : Bool) (spec : RuleSpec) : Rule :=
  ⟨spec, form? ignoreCase spec⟩

/-- Whether the rule looks words up among the keywords. -/
def isKeywords (rule : Rule) : Bool :=
  match rule.form with
  | some .keywords => true
  | _ => false

end Rule

namespace RuleSpec

/-- The literal that a rule opens with, if it opens with one (`Rule.leading_literal`). -/
def leadingLiteral? : RuleSpec → Option String
  | seq text .. => some text
  | eolSpan text .. => some text
  | span start .. => some start
  | markFollowing pattern .. => some pattern
  | wordAndRegexp word .. => some word
  | _ => none

/-- The characters that may stand first where a literal with this first character matches. -/
def leadingForms (ignoreCase : Bool) (first : Char) : List Char :=
  if ignoreCase && Unicode.isAlphabetic first then
    (Unicode.lowercaseChar first ++ Unicode.uppercaseChar first).eraseDups
  else [first]

/-- The characters at which a rule is tried: those that the file names, or the whole alphabet for
keywords, or the forms of the first character of the literal that opens the rule
(`Rule.dispatch_chars`).  A rule that opens with a pattern is never tried unless the file names
characters. -/
def leadingChars (spec : RuleSpec) (named : Option String) (keywordChars : Alphabet)
    (ignoreCase : Bool) : List Char :=
  match named, spec with
  | some chars, _ => chars.toList.eraseDups
  | none, keywords => keywordChars.toList
  | none, spec =>
    match spec.leadingLiteral?.bind fun text => text.toList.head? with
    | some first => leadingForms ignoreCase first
    | none => []

end RuleSpec

end Highlighter
