import Highlighter.Line.Directives
import Highlighter.Proofs.Line.SpanEnd
import Highlighter.Proofs.Unicode.AsciiCase

/-!
# Lines in small letters

What a rule asks of a line does not depend on the case of ASCII letters if the rule ignores case:
not where words end, nor where a literal starts, nor which words are keywords.  End markers of spans
are compared exactly, so for them this takes that they have no letters.
-/

namespace Highlighter

open Unicode (asciiLower)

namespace Line

/-- A line in small ASCII letters. -/
def lowered (line : List Char) : List Char :=
  line.map asciiLower

/-- The answer about a character does not depend on the case of ASCII letters. -/
def CaseBlind (test : Char → Bool) : Prop :=
  ∀ c, test (asciiLower c) = test c

/-- A text without ASCII letters. -/
def Letterless (text : List Char) : Prop :=
  ∀ c ∈ text, c.isAlpha = false

instance : DecidablePred Letterless := fun text =>
  decidable_of_iff (text.all fun c => !c.isAlpha) (by simp [Letterless])

variable {line rest text : List Char} {column inside : Nat} {test : Char → Bool}

@[simp] theorem lowered_nil : lowered [] = [] := rfl

@[simp] theorem lowered_cons (c : Char) (rest : List Char) :
    lowered (c :: rest) = asciiLower c :: lowered rest := rfl

@[simp] theorem lowered_length (line : List Char) : (lowered line).length = line.length :=
  List.length_map ..

theorem lowered_drop (line : List Char) (column : Nat) :
    (lowered line).drop column = lowered (line.drop column) :=
  List.map_drop.symm

theorem lowered_take (line : List Char) (column : Nat) :
    (lowered line).take column = lowered (line.take column) :=
  List.map_take.symm

theorem mem_lowered_iff {d : Char} (noLetter : d.isAlpha = false) :
    d ∈ lowered line ↔ d ∈ line := by
  simp [lowered, Unicode.asciiLower_eq_iff noLetter]

theorem charAt?_lowered (line : List Char) (column : Nat) :
    Text.charAt? (lowered line) column = (Text.charAt? line column).map asciiLower := by
  rw [Text.charAt?, lowered_drop, lowered, List.head?_map, Text.charAt?]

theorem charBefore?_lowered (line : List Char) (column : Nat) :
    Text.charBefore? (lowered line) column = (Text.charBefore? line column).map asciiLower := by
  unfold Text.charBefore?
  split
  · rfl
  · exact charAt?_lowered line _

/-! ## Questions about characters -/

theorem CaseBlind.any (blind : CaseBlind test) (c? : Option Char) :
    (c?.map asciiLower).any test = c?.any test := by
  cases c? with
  | none => rfl
  | some c => exact blind c

theorem CaseBlind.takeWhile_length (blind : CaseBlind test) (text : List Char) :
    ((lowered text).takeWhile test).length = (text.takeWhile test).length := by
  have same : test ∘ asciiLower = test := funext blind
  rw [lowered, List.takeWhile_map, List.length_map, same]

theorem CaseBlind.skipWhile (blind : CaseBlind test) (line : List Char) (column : Nat) :
    skipWhile test (lowered line) column = skipWhile test line column := by
  rw [Line.skipWhile, lowered_drop, blind.takeWhile_length, Line.skipWhile]

/-- All ASCII letters are part of words. -/
theorem contains_caseBlind (alphabet : Alphabet) : CaseBlind alphabet.contains := by
  apply Unicode.of_asciiLower
  intro code high low
  have letters : ∀ code < 91, 65 ≤ code → (Char.ofNat code).isAlphanum ∧
      (Char.ofNat (code + 32)).isAlphanum := by decide
  obtain ⟨capital, small⟩ := letters code high low
  simp [Alphabet.contains, capital, small]

theorem eq_caseBlind {d : Char} (noLetter : d.isAlpha = false) : CaseBlind (· == d) := by
  intro c
  rw [Bool.eq_iff_iff, beq_iff_eq, beq_iff_eq]
  exact Unicode.asciiLower_eq_iff noLetter

theorem isBlank_caseBlind : CaseBlind isBlank :=
  Unicode.of_asciiLower isBlank (by decide)

theorem scan_lowered (alphabet : Alphabet) (line : List Char) (column : Nat) :
    alphabet.scan (lowered line) column = alphabet.scan line column :=
  (contains_caseBlind alphabet).skipWhile line column

/-! ## Literals and anchors -/

theorem startsWithLiteral_lowered (literal text : List Char) :
    startsWithLiteral true literal (lowered text) = startsWithLiteral true literal text := by
  induction literal generalizing text with
  | nil => cases text <;> rfl
  | cons c literal ih =>
    cases text with
    | nil => rfl
    | cons d text => simp [startsWithLiteral, ih text]

theorem literalAt_lowered (line : List Char) (column : Nat) (literal : List Char) :
    literalAt (lowered line) column literal true = literalAt line column literal true := by
  rw [literalAt, lowered_drop, startsWithLiteral_lowered, literalAt]

theorem Letterless.isPrefixOf (letterless : Letterless text) (rest : List Char) :
    text.isPrefixOf (lowered rest) = text.isPrefixOf rest := by
  induction text generalizing rest with
  | nil => cases rest <;> rfl
  | cons c text ih =>
    cases rest with
    | nil => rfl
    | cons d rest =>
      have first : (c == asciiLower d) = (c == d) := by
        rw [Bool.beq_comm, Bool.beq_comm (a := c)]
        exact eq_caseBlind (letterless c List.mem_cons_self) d
      have others := ih (fun e member => letterless e (List.mem_cons_of_mem _ member)) rest
      simp [List.isPrefixOf, first, others]

theorem Letterless.findFrom? (letterless : Letterless text) (rest : List Char) :
    ∀ column, findFrom? text column (lowered rest) = findFrom? text column rest := by
  induction rest with
  | nil => exact fun _ => rfl
  | cons c rest ih =>
    intro column
    have here := letterless.isPrefixOf (c :: rest)
    rw [lowered_cons] at here
    rw [lowered_cons, Line.findFrom?, Line.findFrom?, here, ih]

theorem Letterless.find? (letterless : Letterless text) (line : List Char) (column : Nat) :
    find? text (lowered line) column = find? text line column := by
  rw [Line.find?, lowered_drop, letterless.findFrom?, Line.find?]

theorem anchorsPermit_lowered (anchors : Anchors) (line : List Char) (column width : Nat)
    (words : Alphabet) :
    anchorsPermit anchors (lowered line) column width words =
      anchorsPermit anchors line column width words := by
  have inWords := contains_caseBlind words
  simp only [anchorsPermit, skipBlanks, isBlank_caseBlind.skipWhile, charBefore?_lowered,
    charAt?_lowered, inWords.any]

/-! ## End markers -/

namespace SpanEnd

/-- A past in small letters. -/
def Past.lowered (past : Past) : Past :=
  { past with before := past.before.map asciiLower }

theorem atMarker?_lowered (escape : Option Char) (flags : SpanFlags) (words : Alphabet)
    (past : Past) :
    atMarker? escape flags words past.lowered = atMarker? escape flags words past := by
  simp only [atMarker?, Past.lowered, (contains_caseBlind words).any]
  rfl

variable {escape : Option Char}

theorem escaped_lowered (noLetter : ∀ c, escape = some c → c.isAlpha = false) (c : Char) :
    escape = some (asciiLower c) ↔ escape = some c := by
  cases escape with
  | none => simp
  | some d =>
    have same := Unicode.asciiLower_eq_iff (c := c) (noLetter d rfl)
    simp only [Option.some.injEq]
    rw [eq_comm, same, eq_comm]

theorem next_lowered (noLetter : ∀ c, escape = some c → c.isAlpha = false) (past : Past)
    (c : Char) : past.lowered.next escape (asciiLower c) = (past.next escape c).lowered := by
  have feed := eq_caseBlind (d := '\n') (by decide) c
  simp only [Past.next, Past.lowered, escaped_lowered noLetter, feed, Option.map_some]

/-- The search for an end marker without letters does not depend on the case of the text. -/
theorem search_lowered (noLetter : ∀ c, escape = some c → c.isAlpha = false) {stop : List Char}
    (letterless : Letterless stop) (flags : SpanFlags) (words : Alphabet) (rest : List Char) :
    ∀ past : Past, search stop escape flags words past.lowered (Line.lowered rest) =
      search stop escape flags words past rest := by
  induction rest with
  | nil =>
    intro past
    unfold search
    simp only [lowered_nil, atMarker?_lowered]
    generalize (if stop.isPrefixOf [] then atMarker? escape flags words past else none) = here
    cases here <;> rfl
  | cons c rest ih =>
    intro past
    have here := letterless.isPrefixOf (c :: rest)
    rw [lowered_cons] at here
    rw [lowered_cons, search_cons, search_cons, here, atMarker?_lowered, next_lowered noLetter, ih]

end SpanEnd

theorem findSpanEnd_lowered {escape : Option Char} {stop : List Char}
    (noLetter : ∀ c, escape = some c → c.isAlpha = false) (letterless : Letterless stop)
    (line : List Char) (start : Nat) (flags : SpanFlags) (words : Alphabet) :
    findSpanEnd (lowered line) start stop escape flags words =
      findSpanEnd line start stop escape flags words := by
  have escapes : CaseBlind fun c => decide (escape = some c) := by
    intro c
    simp only [SpanEnd.escaped_lowered noLetter]
  have before : ((lowered line).take start).reverse = lowered (line.take start).reverse := by
    rw [lowered_take, lowered, lowered, List.map_reverse]
  have sameEscapes := escapes.takeWhile_length (line.take start).reverse
  rw [← before] at sameEscapes
  have lowers := SpanEnd.search_lowered noLetter letterless flags words (line.drop start)
    { column := start
      before := Text.charBefore? line start
      escapes := ((line.take start).reverse.takeWhile fun c => escape = some c).length
      brokeLine := false }
  unfold findSpanEnd
  rw [sameEscapes, lowered_drop, charBefore?_lowered]
  exact lowers

end Line

/-! ## Rules -/

/-- What follows the opening is tagged without the help of other modes, and an end marker has no
ASCII letters. -/
def Body.Plain : Body → Prop
  | .token _ delegate => delegate = none
  | .span form => form.delegate = none ∧ Line.Letterless form.stop
  | .restOfLine _ delegate _ => delegate = none
  | .nextWord _ _ => True
  | .enclosed _ => False
  | .patternBehind .. => False

/-- Keywords, or a literal that opens a plain body. -/
def RuleForm.Plain : RuleForm → Prop
  | .keywords => True
  | .led (.literal _) _ body => body.Plain
  | .led (.pattern _) _ _ => False

/-- What a rule does is plain, if it does anything. -/
def Rule.Plain (rule : Rule) : Prop :=
  ∀ form, rule.form = some form → form.Plain

/-- A mode ignores case, numbers included, and its escape character has no case. -/
structure Mode.IgnoresCase (mode : Mode) : Prop where
  ignoreCase : mode.ignoreCase = true
  digitPattern : mode.digitPattern = none
  escape : ∀ c, mode.escape = some c → c.isAlpha = false

namespace Line

variable {mode : Mode} {line : List Char} {column inside : Nat}

theorem keyword?_lowered (ignores : mode.IgnoresCase) (word : List Char) :
    mode.keyword? (lowered word) = mode.keyword? word := by
  have form : Unicode.lowercaseAfter [] (lowered word) = Unicode.lowercaseAfter [] word :=
    Unicode.lowercaseAfter_asciiLower [] word
  simp only [Mode.keyword?, Mode.wordForm, ignores.ignoreCase, if_true, form]

theorem isDigitWord_lowered (ignores : mode.IgnoresCase) (word : List Char) :
    mode.isDigitWord (lowered word) = mode.isDigitWord word := by
  cases word with
  | nil => rfl
  | cons c word => simp [Mode.isDigitWord, ignores.digitPattern]

theorem keywordsVerdict_lowered (ignores : mode.IgnoresCase) (line : List Char) (column : Nat) :
    keywordsVerdict mode (lowered line) column = keywordsVerdict mode line column := by
  have inWords := contains_caseBlind mode.wordChars
  simp only [keywordsVerdict, charBefore?_lowered, inWords.any, scan_lowered, lowered_take,
    lowered_drop, keyword?_lowered ignores, isDigitWord_lowered ignores]

theorem spanVerdict_lowered (ignores : mode.IgnoresCase) {form : SpanForm}
    (letterless : Letterless form.stop) (line : List Char) (column inside : Nat) :
    spanVerdict mode (lowered line) column inside form =
      spanVerdict mode line column inside form := by
  simp only [spanVerdict, findSpanEnd_lowered ignores.escape letterless, lowered_length]

theorem bodyVerdict_lowered (ignores : mode.IgnoresCase) {body : Body} (plain : body.Plain)
    (line : List Char) (column inside : Nat) :
    bodyVerdict mode (lowered line) column inside body =
      bodyVerdict mode line column inside body := by
  cases body with
  | token tag delegate => rfl
  | span form => exact spanVerdict_lowered ignores plain.2 line column inside
  | restOfLine tag delegate excludeMatch =>
    simp only [bodyVerdict, restOfLineVerdict, lowered_length]
  | nextWord tag excludeMatch => simp only [bodyVerdict, scan_lowered]
  | enclosed form => cases plain
  | patternBehind tag pattern patternTag excludeMatch => cases plain

/-- A plain rule finds the same on a line in small letters. -/
theorem ruleVerdict_lowered (ignores : mode.IgnoresCase) {rule : Rule} (plain : rule.Plain)
    (line : List Char) (column : Nat) :
    ruleVerdict mode (lowered line) column rule = ruleVerdict mode line column rule := by
  cases form : rule.form with
  | none => simp [ruleVerdict, form]
  | some found =>
    have plainForm := plain found form
    cases found with
    | keywords => simpa [ruleVerdict, form] using keywordsVerdict_lowered ignores line column
    | led opener anchors body =>
      cases opener with
      | pattern pattern => cases plainForm
      | literal text =>
        simp only [ruleVerdict, form, openingWidth?, ignores.ignoreCase, literalAt_lowered,
          anchorsPermit_lowered]
        split
        · rfl
        · exact bodyVerdict_lowered ignores plainForm line column _

theorem sectionRefVerdict_lowered (line : List Char) (column : Nat) :
    sectionRefVerdict (lowered line) column = sectionRefVerdict line column := by
  have opening : Letterless ['<', '<'] := by decide
  have closing : Letterless ['>', '>'] := by decide
  simp only [sectionRefVerdict, lowered_drop, opening.isPrefixOf, closing.find?]

end Line

end Highlighter
