import Highlighter.Proofs.Line.IgnoringCase
import Highlighter.Proofs.Registry.Leading

/-!
# Rulesets that ignore case

A ruleset of literals and keywords that ignores case makes a plain mode, unless one of its end
markers has letters.  The matchers at a letter are the rules that have the letter among the forms of
their first character.  This is the case for every rule that could open there, so that to try these
is to try all rules in their order.
-/

namespace Highlighter

open Unicode (asciiLower)

/-! ## Rulesets -/

/-- Keywords, or a rule that opens with a literal and in which no other mode has a part. -/
def RuleSpec.isPlain : RuleSpec → Bool
  | .seq _ _ delegate _ => delegate.isNone
  | .span _ _ _ delegate _ _ _ => delegate.isNone
  | .eolSpan _ _ delegate _ _ => delegate.isNone
  | .markFollowing .. => true
  | .keywords => true
  | _ => false

/-- The end marker of a rule, if it has one. -/
def RuleSpec.stop? : RuleSpec → Option String
  | .span _ stop .. => some stop
  | .spanRegexp _ stop .. => some stop
  | _ => none

/-- A ruleset that ignores case and imports nothing, with plain rules that are tried wherever they
may start, numbers that start with a digit, and an escape character without case. -/
structure Ruleset.Plain (ruleset : Ruleset) : Prop where
  imports : ruleset.imports = []
  ignoreCase : ruleset.attributes.ignoreCase = true
  digitPattern : ruleset.attributes.digitPattern.isEmpty = true
  escape : ∀ c ∈ ruleset.attributes.escape.toList.head?, c.isAlpha = false
  chars : ∀ entry ∈ ruleset.rules, entry.chars = none
  rules : ∀ entry ∈ ruleset.rules, entry.spec.isPlain = true

/-- No end marker has an ASCII letter. -/
def Ruleset.StopsAreLetterless (ruleset : Ruleset) : Prop :=
  ∀ entry ∈ ruleset.rules, ∀ stop ∈ entry.spec.stop?, Line.Letterless stop.toList

instance : DecidablePred Ruleset.StopsAreLetterless := fun ruleset =>
  inferInstanceAs (Decidable (∀ entry ∈ ruleset.rules, ∀ stop ∈ entry.spec.stop?, _))

/-- What a plain rule does, if it does anything: it looks keywords up, or opens with a literal and
has a plain body unless its end marker has letters. -/
theorem Rule.form_of_plain {spec : RuleSpec} (plain : spec.isPlain = true) {ignoreCase : Bool}
    {form : RuleForm} (compiled : (Rule.compile ignoreCase spec).form = some form) :
    spec = .keywords ∧ form = .keywords ∨
      ∃ text letters anchors body, spec.leadingLiteral? = some text ∧ text.toList = letters ∧
        letters ≠ [] ∧ form = .led (.literal letters) anchors body ∧
        ((∀ stop ∈ spec.stop?, Line.Letterless stop.toList) → body.Plain) := by
  cases spec with
  | keywords =>
    cases compiled
    exact .inl ⟨rfl, rfl⟩
  | seq seq tag delegate anchors =>
    simp only [Rule.compile, Rule.form?, Option.bind_eq_bind, Option.bind_eq_some_iff,
      Option.some.injEq] at compiled
    obtain ⟨letters, isLiteral, tag, -, rfl⟩ := compiled
    obtain ⟨same, notEmpty⟩ := Rule.literal?_eq_some isLiteral
    have own : delegate = none := by simpa [RuleSpec.isPlain] using plain
    exact .inr ⟨seq, letters, _, _, rfl, same, notEmpty, rfl, fun _ => own⟩
  | span start stop tag delegate excludeMatch flags anchors =>
    simp only [Rule.compile, Rule.form?, Rule.spanForm?, Option.bind_eq_bind,
      Option.bind_eq_some_iff, Option.some.injEq] at compiled
    obtain ⟨letters, isLiteral, found, ⟨marker, isMarker, tag, -, rfl⟩, rfl⟩ := compiled
    obtain ⟨same, notEmpty⟩ := Rule.literal?_eq_some isLiteral
    obtain ⟨rfl, -⟩ := Rule.literal?_eq_some isMarker
    have own : delegate = none := by simpa [RuleSpec.isPlain] using plain
    exact .inr ⟨start, letters, _, _, rfl, same, notEmpty, rfl,
      fun letterless => ⟨own, letterless stop rfl⟩⟩
  | eolSpan seq tag delegate excludeMatch anchors =>
    simp only [Rule.compile, Rule.form?, Option.bind_eq_bind, Option.bind_eq_some_iff,
      Option.some.injEq] at compiled
    obtain ⟨letters, isLiteral, tag, -, rfl⟩ := compiled
    obtain ⟨same, notEmpty⟩ := Rule.literal?_eq_some isLiteral
    have own : delegate = none := by simpa [RuleSpec.isPlain] using plain
    exact .inr ⟨seq, letters, _, _, rfl, same, notEmpty, rfl, fun _ => own⟩
  | markFollowing pattern tag excludeMatch anchors =>
    simp only [Rule.compile, Rule.form?, Option.bind_eq_bind, Option.bind_eq_some_iff,
      Option.some.injEq] at compiled
    obtain ⟨letters, isLiteral, tag, -, rfl⟩ := compiled
    obtain ⟨same, notEmpty⟩ := Rule.literal?_eq_some isLiteral
    exact .inr ⟨pattern, letters, _, _, rfl, same, notEmpty, rfl, fun _ => trivial⟩
  | seqRegexp regexp tag delegate anchors => cases plain
  | spanRegexp start stop tag delegate excludeMatch flags anchors => cases plain
  | eolSpanRegexp regexp tag delegate excludeMatch anchors => cases plain
  | wordAndRegexp word wordTag pattern patternTag excludeMatch anchors => cases plain

/-- A plain rule stays one when it is made ready to run. -/
theorem Rule.plain_compile {spec : RuleSpec} (plain : spec.isPlain = true)
    (letterless : ∀ stop ∈ spec.stop?, Line.Letterless stop.toList) (ignoreCase : Bool) :
    (Rule.compile ignoreCase spec).Plain := by
  intro form compiled
  rcases Rule.form_of_plain plain compiled with ⟨-, rfl⟩ | ⟨_, _, _, _, -, -, -, rfl, body⟩
  · trivial
  · exact body letterless

/-! ## Where rules are tried -/

/-- The small letter and the capital are forms of each of the two. -/
theorem mem_leadingForms {first c : Char} (letter : c.isAlpha)
    (same : asciiLower first = asciiLower c) : c ∈ RuleSpec.leadingForms true first := by
  have forms : ∀ code < 91, 65 ≤ code →
      (Char.ofNat code ∈ RuleSpec.leadingForms true (Char.ofNat code) ∧
        Char.ofNat (code + 32) ∈ RuleSpec.leadingForms true (Char.ofNat code)) ∧
      Char.ofNat code ∈ RuleSpec.leadingForms true (Char.ofNat (code + 32)) ∧
        Char.ofNat (code + 32) ∈ RuleSpec.leadingForms true (Char.ofNat (code + 32)) := by
    decide +kernel
  obtain ⟨code, high, low, form, formOfFirst⟩ := Unicode.asciiLetters_of_same letter same
  obtain ⟨ofCapital, ofSmall⟩ := forms code high low
  rcases formOfFirst with rfl | rfl
  · rcases form with rfl | rfl
    · exact ofCapital.1
    · exact ofCapital.2
  · rcases form with rfl | rfl
    · exact ofSmall.1
    · exact ofSmall.2

theorem subset_insertAscending (c : Char) (list : List Char) :
    list ⊆ Alphabet.insertAscending c list := by
  induction list with
  | nil => exact List.nil_subset _
  | cons d rest ih =>
    rw [Alphabet.insertAscending]
    split
    · exact List.subset_cons_self _ _
    · exact List.cons_subset_cons d ih

/-- All ASCII letters are in the list of an alphabet. -/
theorem Alphabet.mem_toList_of_letter (alphabet : Alphabet) {c : Char} (letter : c.isAlpha) :
    c ∈ alphabet.toList := by
  have letters : ∀ code < 91, 65 ≤ code → Char.ofNat code ∈ Alphabet.alphanumeric ∧
      Char.ofNat (code + 32) ∈ Alphabet.alphanumeric := by decide +kernel
  have listed : c ∈ Alphabet.alphanumeric := by
    obtain ⟨code, high, low, rfl | rfl⟩ := Unicode.asciiLetter_cases letter
    · exact (letters code high low).1
    · exact (letters code high low).2
  unfold Alphabet.toList
  induction alphabet.extra with
  | nil => exact listed
  | cons d extra ih => exact subset_insertAscending d _ ih

theorem RuleSpec.leadingChars_of_literal {spec : RuleSpec} {text : String} {first : Char}
    {more : List Char} (opens : spec.leadingLiteral? = some text)
    (letters : text.toList = first :: more) (keywordChars : Alphabet) (ignoreCase : Bool) :
    spec.leadingChars none keywordChars ignoreCase = RuleSpec.leadingForms ignoreCase first := by
  cases spec <;> cases opens <;> simp [RuleSpec.leadingChars, RuleSpec.leadingLiteral?, letters]

/-- A plain rule that is not tried at an ASCII letter finds nothing there. -/
theorem Line.ruleVerdict_eq_declined {mode : Mode} {line rest : List Char} {column : Nat} {c : Char}
    {spec : RuleSpec} {keywordChars : Alphabet} (ignoreCase : mode.ignoreCase = true)
    (plain : spec.isPlain = true) (letter : c.isAlpha) (place : line.drop column = c :: rest)
    (absent : c ∉ spec.leadingChars none keywordChars true) :
    ruleVerdict mode line column (Rule.compile true spec) = .declined := by
  cases compiled : (Rule.compile true spec).form with
  | none => simp [ruleVerdict, compiled]
  | some form =>
    rcases Rule.form_of_plain plain compiled with
      ⟨rfl, -⟩ | ⟨text, letters, anchors, body, opens, same, notEmpty, rfl, -⟩
    · exact absurd (keywordChars.mem_toList_of_letter letter) absent
    · obtain ⟨first, more, rfl⟩ := List.exists_cons_of_ne_nil notEmpty
      rw [RuleSpec.leadingChars_of_literal opens same] at absent
      have differs : Unicode.equalIgnoringAsciiCase first c = false := by
        rw [Bool.eq_false_iff]
        intro equal
        exact absent (mem_leadingForms letter (eq_of_beq equal))
      have missing : literalAt line column (first :: more) true = false := by
        simp [literalAt, place, startsWithLiteral, differs]
      simp [ruleVerdict, compiled, openingWidth?, ignoreCase, missing]

/-! ## Tables of rules -/

namespace Mode

theorem foldl_addMatcher_listAt (matcher : Matcher) (chars : List Char) (c : Char) :
    ∀ table : Table Char (List Matcher),
    (chars.foldl (fun table c => addMatcher c matcher table) table).listAt c =
      table.listAt c ++ (chars.filter (· = c)).map fun _ => matcher := by
  induction chars with
  | nil => simp
  | cons d chars ih =>
    intro table
    rw [List.foldl_cons, ih, addMatcher, Table.listAt_insert]
    by_cases here : d = c
    · simp [here]
    · simp [here]

/-- The matchers that a rule of a file stands for at a character: itself, as often as the character
is among those at which it is tried. -/
def entryMatchers (ignoreCase : Bool) (keywordChars : Alphabet) (c : Char) (entry : RuleEntry) :
    List Matcher :=
  ((entry.spec.leadingChars entry.chars keywordChars ignoreCase).filter (· = c)).map fun _ =>
    .rule (.compile ignoreCase entry.spec)

/-- At each character rules are tried in the order of the file. -/
theorem ruleTable_listAt (ignoreCase : Bool) (keywordChars : Alphabet) (rules : List RuleEntry)
    (c : Char) : (ruleTable ignoreCase keywordChars rules).listAt c =
      rules.flatMap (entryMatchers ignoreCase keywordChars c) := by
  have goesOn : ∀ table : Table Char (List Matcher),
      (rules.foldl (fun table entry =>
        (entry.spec.leadingChars entry.chars keywordChars ignoreCase).foldl
          (fun table c => addMatcher c (.rule (.compile ignoreCase entry.spec)) table) table)
        table).listAt c =
        table.listAt c ++ rules.flatMap (entryMatchers ignoreCase keywordChars c) := by
    induction rules with
    | nil => simp
    | cons entry rules ih =>
      intro table
      rw [List.foldl_cons, ih, foldl_addMatcher_listAt, List.flatMap_cons, List.append_assoc]
      rfl
  exact goesOn .empty

end Mode

namespace Line

variable {mode : Mode} {line rest : List Char} {column : Nat}

/-- Copies of a matcher count as one, and no copies as one that finds nothing. -/
theorem firstVerdict_copies {matcher : Matcher} {copies : List Matcher}
    (same : ∀ other ∈ copies, other = matcher)
    (declines : copies = [] → matcherVerdict mode line column false matcher = .declined)
    (behind : List Matcher) : firstVerdict mode line column (copies ++ behind) =
      firstVerdict mode line column (matcher :: behind) := by
  induction copies with
  | nil => rw [List.nil_append, firstVerdict, declines rfl]
  | cons first copies ih =>
    obtain rfl := same first List.mem_cons_self
    rw [List.cons_append, firstVerdict, firstVerdict]
    cases verdict : matcherVerdict mode line column false first with
    | declined =>
      have others := ih (fun other member => same other (List.mem_cons_of_mem _ member))
        fun _ => verdict
      rw [firstVerdict, verdict] at others
      exact others
    | passed width => rfl
    | taken width actions => rfl
    | endsLine actions => rfl

/-- To try what items stand for is to try one matcher for each, where those that stand for nothing
find nothing. -/
theorem firstVerdict_flatMap {α : Type} (listed : α → List Matcher) (matcher : α → Matcher)
    {items : List α} (same : ∀ item ∈ items, ∀ other ∈ listed item, other = matcher item)
    (declines : ∀ item ∈ items, listed item = [] →
      matcherVerdict mode line column false (matcher item) = .declined) :
    firstVerdict mode line column (items.flatMap listed) =
      firstVerdict mode line column (items.map matcher) := by
  induction items with
  | nil => rfl
  | cons item items ih =>
    have others := ih (fun other member => same other (List.mem_cons_of_mem _ member))
      fun other member => declines other (List.mem_cons_of_mem _ member)
    rw [List.flatMap_cons, List.map_cons, firstVerdict_copies (same item List.mem_cons_self)
      (declines item List.mem_cons_self), firstVerdict, firstVerdict, others]

end Line

/-! ## Modes -/

theorem Mode.IgnoresCase.of_attributes {first second : Mode} (ignores : second.IgnoresCase)
    (same : first.attributes = second.attributes) : first.IgnoresCase := by
  have ignoreCase := congrArg Mode.ignoreCase same
  have digitPattern := congrArg Mode.digitPattern same
  have escape := congrArg Mode.escape same
  exact ⟨ignoreCase.trans ignores.ignoreCase, digitPattern.trans ignores.digitPattern,
    fun c escapes => ignores.escape c (escape.symm.trans escapes)⟩

/-- Installing directives brings only section references to characters other than `@`, if addresses
are not looked for. -/
theorem Mode.RulesOnly.of_mem_installDirectives {mode : Mode} (only : mode.RulesOnly) {c : Char}
    {matcher : Matcher} (listed : matcher ∈ (mode.installDirectives false).matchersAt c) :
    matcher ∈ mode.matchersAt c ∨
      ∃ directive, matcher = .directive directive ∧ (c ≠ '@' → directive = .sectionRef) := by
  by_cases atSign : c = '@'
  · subst atSign
    rw [only.installDirectives_atSign] at listed
    rcases List.mem_append.mp listed with installed | own
    · obtain ⟨directive, -, rfl⟩ := List.mem_map.mp installed
      exact .inr ⟨directive, rfl, fun away => absurd rfl away⟩
    · exact .inl own
  · rw [only.installDirectives_elsewhere atSign] at listed
    split at listed
    · rcases List.mem_cons.mp listed with rfl | own
      · exact .inr ⟨.sectionRef, rfl, fun _ => rfl⟩
      · exact .inl own
    · exact .inl listed

namespace Ruleset.Plain

variable {ruleset : Ruleset} {language : String} {id : RulesetId} {delims : CommentDelims}

theorem ignoresCase (plain : ruleset.Plain) :
    ((Mode.compile language id delims ruleset).installDirectives false).IgnoresCase := by
  have own : (Mode.compile language id delims ruleset).IgnoresCase :=
    ⟨plain.ignoreCase, if_pos plain.digitPattern, plain.escape⟩
  exact own.of_attributes (Mode.installDirectives_attributes _ false)

/-- What is tried is a plain rule or a directive, and away from `@` a section reference. -/
theorem of_mem_matchersAt (plain : ruleset.Plain) (stops : ruleset.StopsAreLetterless) {c : Char}
    {matcher : Matcher} (listed : matcher ∈
      ((Mode.compile language id delims ruleset).installDirectives false).matchersAt c) :
    (∃ rule, matcher = .rule rule ∧ rule.Plain) ∨
      ∃ directive, matcher = .directive directive ∧ (c ≠ '@' → directive = .sectionRef) := by
  have only := Mode.rulesOnly_compile language id delims ruleset
  rcases only.of_mem_installDirectives listed with own | installed
  · unfold Mode.matchersAt Mode.compile at own
    dsimp only at own
    rw [Mode.ruleTable_listAt] at own
    obtain ⟨entry, member, copies⟩ := List.mem_flatMap.mp own
    obtain ⟨_, _, rfl⟩ := List.mem_map.mp copies
    exact .inl ⟨_, rfl, Rule.plain_compile (plain.rules entry member) (stops entry member) _⟩
  · exact .inr installed

/-- To try what is listed at a letter is to try all rules. -/
theorem firstVerdict_eq (plain : ruleset.Plain) {line rest : List Char} {column : Nat} {c : Char}
    (place : line.drop column = c :: rest) (letter : c.isAlpha) :
    let mode := (Mode.compile language id delims ruleset).installDirectives false
    Line.firstVerdict mode line column (mode.matchersAt c) =
      Line.firstVerdict mode line column
        (ruleset.rules.map fun entry => .rule (.compile true entry.spec)) := by
  intro mode
  have away : c ≠ '@' := by
    rintro rfl
    cases letter
  have noSection : c ≠ '<' := by
    rintro rfl
    cases letter
  have only := Mode.rulesOnly_compile language id delims ruleset
  have listed : mode.matchersAt c = ruleset.rules.flatMap (Mode.entryMatchers true
      (Mode.compile language id delims ruleset).keywordChars c) := by
    rw [only.installDirectives_elsewhere away, if_neg noSection, ← plain.ignoreCase]
    exact Mode.ruleTable_listAt ..
  rw [listed]
  apply Line.firstVerdict_flatMap
  · intro entry _ matcher copies
    obtain ⟨_, _, rfl⟩ := List.mem_map.mp copies
    rfl
  · intro entry member absent
    -- only here it counts that the file names no characters for a rule to be tried at
    have untried := List.filter_eq_nil_iff.mp (List.map_eq_nil_iff.mp absent)
    rw [plain.chars entry member] at untried
    have ignoreCase : mode.ignoreCase = true := plain.ignoresCase.ignoreCase
    apply Line.ruleVerdict_eq_declined ignoreCase (plain.rules entry member) letter place
    exact fun tried => untried c tried (by simp)

end Ruleset.Plain

/-- A plain ruleset without letters in its end markers is made into a plain mode. -/
theorem Registry.MadeOf.plain {library : Library} {ruleset : Ruleset} {mode : Mode}
    (made : MadeOf library false ruleset mode) (plain : ruleset.Plain)
    (stops : ruleset.StopsAreLetterless) : mode.Plain := by
  cases made with
  | assembled found alone =>
    rw [alone plain.imports, Registry.assembled, List.foldl_nil]
    refine { toIgnoresCase := plain.ignoresCase, rules := ?_, directives := ?_, letters := ?_ }
    · intro c rule listed
      rcases plain.of_mem_matchersAt stops listed with ⟨_, same, rulePlain⟩ | ⟨_, same, -⟩
      · cases same
        exact rulePlain
      · cases same
    · intro c directive away listed
      rcases plain.of_mem_matchersAt stops listed with ⟨_, same, -⟩ | ⟨_, same, sectionRef⟩
      · cases same
      · cases same
        exact sectionRef away
    · refine ⟨ruleset.rules.map fun entry => .rule (.compile true entry.spec), ?_, ?_⟩
      · intro matcher member
        obtain ⟨entry, entryMember, rfl⟩ := List.mem_map.mp member
        exact Rule.plain_compile (plain.rules entry entryMember) (stops entry entryMember) true
      · exact fun line column c rest place letter => plain.firstVerdict_eq place letter

end Highlighter
