import Highlighter.Mode.Directive
import Highlighter.Mode.Rule

/-!
# Modes

A mode is a ruleset that is ready to run.  Its matchers are listed by the character that they may
start with; at a character of a line they are tried in order.  Modes are put together from their own
rules, the rules of the rulesets that they import and the directives, in that order of time.
-/

namespace Highlighter

/-- The identifier of a ruleset, such as `python_main`. -/
structure RulesetId where
  text : String
  deriving DecidableEq, Repr

/-- The identifier in force before a language is set, which belongs to no ruleset. -/
def RulesetId.noLanguage : RulesetId := ⟨"no-language"⟩

/-- What may be tried at a character. -/
inductive Matcher where
  | directive (directive : Directive)
  | rule (rule : Rule)

namespace Matcher

/-- Whether two matchers are the same directive, or rules written the same. -/
def same : Matcher → Matcher → Bool
  | directive first, directive second => first = second
  | rule first, rule second => first.spec = second.spec
  | _, _ => false

/-- Whether a matcher is a directive. -/
def isDirective : Matcher → Bool
  | directive _ => true
  | rule _ => false

/-- Whether a matcher looks words up among the keywords. -/
def isKeywords : Matcher → Bool
  | directive _ => false
  | rule compiled => compiled.isKeywords

end Matcher

/-- A ruleset that is ready to run. -/
structure Mode where
  language : String
  ruleset : RulesetId
  /-- The tag for what no rule claims in a range that is delegated to the mode. -/
  defaultTag : Option Tag
  escape : Option Char
  highlightDigits : Bool
  digitPattern : Option Pattern
  ignoreCase : Bool
  /-- The tags of words, which are in lower case if the mode ignores case. -/
  keywords : Table (List Char) Tag
  /-- The characters of words. -/
  wordChars : Alphabet
  /-- The characters of words that may be keywords. -/
  keywordChars : Alphabet
  matchers : Table Char (List Matcher)
  delims : CommentDelims
  /-- The mode stands for a ruleset that does not exist. -/
  isUnknown : Bool

namespace Mode

/-- The mode that stands for a ruleset that does not exist (`Mode.unknown`). -/
def unknown (ruleset : RulesetId) : Mode where
  language := "unknown-language"
  ruleset := ruleset
  defaultTag := none
  escape := none
  highlightDigits := false
  digitPattern := none
  ignoreCase := false
  keywords := .empty
  wordChars := {}
  keywordChars := {}
  matchers := .empty
  delims := {}
  isUnknown := true

/-- The matchers to try at a character, in order (`Mode.rules_for`). -/
def matchersAt (mode : Mode) (c : Char) : List Matcher :=
  mode.matchers.listAt c

/-- A word in the form in which a mode keeps its keywords. -/
def wordForm (ignoreCase : Bool) (word : List Char) : List Char :=
  if ignoreCase then Unicode.lowercaseAfter [] word else word

/-- The tag of a word, if it is a keyword (`Mode.keyword`). -/
def keyword? (mode : Mode) (word : List Char) : Option Tag :=
  mode.keywords.get? (wordForm mode.ignoreCase word)

/-- Whether a word is tagged as a number (`Mode.is_digit_word`). -/
def isDigitWord (mode : Mode) (word : List Char) : Bool :=
  mode.highlightDigits && !word.isEmpty &&
    match mode.digitPattern with
    | some pattern => pattern.lengthAt word 0 == word.length
    | none => word.head?.any Char.isDigit

/-- Adds a matcher behind those for a character. -/
def addMatcher (c : Char) (matcher : Matcher) (matchers : Table Char (List Matcher)) :
    Table Char (List Matcher) :=
  matchers.insert c (matchers.listAt c ++ [matcher])

/-- The tags of words, a word that is declared twice having the later one.  Words under an unknown
tag are left out. -/
def keywordTable (ignoreCase : Bool) (groups : List (String × List String)) :
    Table (List Char) Tag :=
  groups.foldl
    (fun table (tagWord, words) =>
      match Tag.ofWord? tagWord with
      | none => table
      | some tag =>
        words.foldl (fun table word => table.insert (wordForm ignoreCase word.toList) tag) table)
    .empty

/-- The languages whose keywords may hold an apostrophe (`APOSTROPHE_WORD_LANGUAGES`). -/
def apostropheLanguages : List String :=
  ["haskell"]

/-- The matchers of the rules of a file, by the characters at which they are tried. -/
def ruleTable (ignoreCase : Bool) (keywordChars : Alphabet) (rules : List RuleEntry) :
    Table Char (List Matcher) :=
  rules.foldl
    (fun table entry =>
      let matcher := Matcher.rule (.compile ignoreCase entry.spec)
      (entry.spec.leadingChars entry.chars keywordChars ignoreCase).foldl
        (fun table c => addMatcher c matcher table) table)
    .empty

/-- A ruleset of a language made ready to run, with its own rules alone (`Mode.compile`). -/
def compile (language : String) (id : RulesetId) (delims : CommentDelims) (ruleset : Ruleset) :
    Mode :=
  let attributes := ruleset.attributes
  let ignoreCase := attributes.ignoreCase
  let keywords := keywordTable ignoreCase ruleset.keywords
  let wordChars :=
    (({} : Alphabet).insertAll keywords.keys.flatten).insertAll attributes.noWordSep.toList
  let keywordChars :=
    if apostropheLanguages.contains language then wordChars.insert '\'' else wordChars
  { language
    ruleset := id
    defaultTag := attributes.default.bind Tag.ofWord?
    escape := attributes.escape.toList.head?
    highlightDigits := attributes.highlightDigits
    digitPattern :=
      if attributes.digitPattern.isEmpty then none
      else Pattern.ofSource? ignoreCase attributes.digitPattern
    ignoreCase
    keywords
    wordChars
    keywordChars
    matchers := ruleTable ignoreCase keywordChars ruleset.rules
    delims
    isUnknown := false }

/-- Adds imported matchers behind others, leaving out directives and rules that are there. -/
def mergeMatchers (own imported : List Matcher) : List Matcher :=
  imported.foldl
    (fun list matcher =>
      if matcher.isDirective || list.any matcher.same then list else list ++ [matcher])
    own

/-- Adds the rules of another mode behind those for each character (`Mode.merge_rules_from`). -/
def importRules (mode other : Mode) : Mode :=
  { mode with
    matchers := other.matchers.entries.foldl
      (fun table (c, imported) => table.insert c (mergeMatchers (table.listAt c) imported))
      mode.matchers }

/-- Puts a directive before all matchers for a character, unless it is among them
(`Mode.prepend_directive`). -/
def prependDirective (mode : Mode) (c : Char) (directive : Directive) : Mode :=
  let matcher := Matcher.directive directive
  let list := mode.matchersAt c
  if list.any matcher.same then mode
  else { mode with matchers := mode.matchers.insert c (matcher :: list) }

/-- Puts a directive behind the matchers for a character, unless it is among them
(`Mode.append_directive`).  The look-up of keywords stays behind it: where that fails, the whole
word is passed over. -/
def appendDirective (mode : Mode) (c : Char) (directive : Directive) : Mode :=
  let matcher := Matcher.directive directive
  let list := mode.matchersAt c
  if list.any matcher.same then mode
  else
    let before := list.takeWhile fun matcher => !matcher.isKeywords
    let behind := list.dropWhile fun matcher => !matcher.isKeywords
    { mode with matchers := mode.matchers.insert c (before ++ matcher :: behind) }

/-- Adds the directives: those that open with `@` before the rules at that character, section
references before those at `<`, and addresses behind the rules at the first letters of protocols
(`install`). -/
def installDirectives (mode : Mode) (highlightUrls : Bool) : Mode :=
  let mode :=
    Directive.atDirectives.foldr (fun directive mode => mode.prependDirective '@' directive) mode
  let mode := mode.prependDirective '<' .sectionRef
  if highlightUrls then
    Directive.protocolInitials.foldl (fun mode c => mode.appendDirective c .url) mode
  else mode

@[simp] theorem unknown_ruleset (id : RulesetId) : (unknown id).ruleset = id := rfl

@[simp] theorem unknown_isUnknown (id : RulesetId) : (unknown id).isUnknown = true := rfl

@[simp] theorem compile_ruleset (language : String) (id : RulesetId) (delims : CommentDelims)
    (ruleset : Ruleset) : (compile language id delims ruleset).ruleset = id := rfl

@[simp] theorem importRules_ruleset (mode other : Mode) :
    (mode.importRules other).ruleset = mode.ruleset := rfl

@[simp] theorem prependDirective_ruleset (mode : Mode) (c : Char) (directive : Directive) :
    (mode.prependDirective c directive).ruleset = mode.ruleset := by
  simp only [prependDirective]
  split <;> rfl

@[simp] theorem appendDirective_ruleset (mode : Mode) (c : Char) (directive : Directive) :
    (mode.appendDirective c directive).ruleset = mode.ruleset := by
  simp only [appendDirective]
  split <;> rfl

/-- Directives leave a mode under its identifier. -/
@[simp] theorem installDirectives_ruleset (mode : Mode) (highlightUrls : Bool) :
    (mode.installDirectives highlightUrls).ruleset = mode.ruleset := by
  unfold installDirectives Directive.atDirectives Directive.protocolInitials
  cases highlightUrls <;> simp [List.foldr, List.foldl]

end Mode

end Highlighter
