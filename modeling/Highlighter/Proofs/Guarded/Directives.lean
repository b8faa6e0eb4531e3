import Highlighter.Line.Directives
import Highlighter.Proofs.Guarded.Matching
import Highlighter.Proofs.Registry.Matchers

/-!
# Matching directives under guard

The verdicts of directives and the start of a line, over byte offsets and with every cut of the line
guarded.  Directive words are cut off where they were seen to stand, and the words behind `@` rest
on it that they are tried at an `@` alone.
-/

namespace Highlighter.Guarded

open Text
open Line (Action Painting Verdict Resumption paintDirective)

/-- The number of bytes of a word. -/
abbrev width (word : String) : Nat := byteLength word.toList

/-- The `@language` at the start of a line: where the name behind it ends, and what is done
(`LineRun.match_at_language`). -/
def languageDirective? (text : List Char) : Option (Nat × List Action) := do
  let start ← skipWhile? Line.isBlank text (width "@language")
  let stop ← skipWhile? Unicode.isIdentifierCharacter text start
  let name ← slice? text start stop
  some (stop, [paintDirective 0 (width "@language"), .switchLanguage (String.ofList name)])

/-- The number of bytes of `@doc`, or of `@` before a blank or the end of the line, at the start of
a line. -/
def docPartOpening? (text : List Char) : Option (Option Nat) := do
  let isDoc ← startsWithWord? text "@doc"
  if isDoc then some (some (width "@doc"))
  else if text.head? = some '@' then
    (from? text 1).map fun rest => if rest.head?.all Line.isBlank then some 1 else none
  else some none

/-- The rest of a line behind the opening of a documentation part (`LineRun.match_doc_part`). -/
def docPartVerdict? (text : List Char) : Option Verdict := do
  let opening ← docPartOpening? text
  match opening with
  | none => some .declined
  | some inside =>
    some (.endsLine [
      paintDirective 0 inside,
      .paint { start := inside, stop := byteLength text, tag := .docPart },
      .arm .docPart])

/-- A word behind `@`, with nothing but blanks before it and a blank or the end of the line behind
it (`LineRun.match_leo_keywords`). -/
def leoKeywordsVerdict? (mode : Mode) (text : List Char) (offset : Nat) : Option Verdict := do
  let front ← upTo? text offset
  if !front.all Line.isBlank then some .declined
  else do
    let stop ← skipWhile? (fun c => mode.wordChars.contains c || c == '-') text (offset + 1)
    let rest ← from? text stop
    if rest.head?.any (fun c => !Line.isBlank c) then some .declined
    else do
      let throughBlank := min (stop - offset + 1) (byteLength text - offset)
      let word ← slice? text (offset + 1) stop
      if Directive.leoWords.contains (String.ofList word) then
        some (.taken throughBlank [paintDirective offset stop])
      else do
        let marked ← slice? text offset stop
        match mode.keyword? marked with
        | some tag => some (.taken (stop - offset) [.paint { start := offset, stop, tag }])
        | none => some (.passed throughBlank)

/-- A name between `<<` and `>>` (`LineRun.match_section_ref`). -/
def sectionRefVerdict? (text : List Char) (offset : Nat) : Option Verdict := do
  let rest ← from? text offset
  if ['<', '<'].isPrefixOf rest then do
    let inside ← from? text (offset + 2)
    match offsetOf? ['>', '>'] inside with
    | none => some .declined
    | some ahead =>
      let closing := offset + 2 + ahead
      some (.taken (closing + 2 - offset) [
        .paint { start := offset, stop := offset + 2, tag := .nameBrackets },
        .paint { start := offset + 2, stop := closing, tag := .sectionName },
        .paint { start := closing, stop := closing + 2, tag := .nameBrackets }])
  else some .declined

/-- What becomes of a directive word at the start of a line. -/
def wordVerdict? (text : List Char) (word : String) (verdict : Verdict) : Option Verdict :=
  (startsWithWord? text word).map fun starts => if starts then verdict else .declined

/-- The verdict at the start of a line of a directive that only counts there. -/
def lineStartVerdict? (text : List Char) : Directive → Option Verdict
  | .docPart => docPartVerdict? text
  | .wrap => do
    let starts ← startsWithWord? text "@wrap"
    if starts then do
      let stop ← skipWhile? Line.isBlank text (width "@wrap")
      some (.taken stop [paintDirective 0 stop])
    else some .declined
  | .noColorNode => wordVerdict? text "@nocolor-node" (.endsLine [.arm .noColorNode])
  | .noColor =>
    if "@nocolor-".toList.isPrefixOf text then some .declined
    else wordVerdict? text "@nocolor" (.endsLine [.arm .noColor])
  | .language => do
    let starts ← startsWithWord? text "@language"
    if starts then (languageDirective? text).map fun (stop, actions) => .taken stop actions
    else some .declined
  | .killColor => wordVerdict? text "@killcolor" (.endsLine [.arm .killColor])
  | .color =>
    wordVerdict? text "@color"
      (.taken (width "@color") [.arm .color, paintDirective 0 (width "@color")])
  | _ => some .declined

/-- The verdict of a directive at an offset, in a delegated range if `nested`
(`LineRun.match_directive`). -/
def directiveVerdict? (mode : Mode) (text : List Char) (offset : Nat) (nested : Bool)
    (directive : Directive) : Option Verdict :=
  match directive with
  | .leoKeywords => leoKeywordsVerdict? mode text offset
  | .sectionRef => sectionRefVerdict? text offset
  | .url => do
    let width ← urlWidth? text offset
    if width = 0 then some .declined
    else some (.taken width [.paint { start := offset, stop := offset + width, tag := .url }])
  | directive =>
    if offset = 0 && !nested then lineStartVerdict? text directive else some .declined

/-- The verdict of a matcher at an offset (`LineRun.run_matcher`). -/
def matcherVerdict? (rounds : Nat) (mode : Mode) (text : List Char) (offset : Nat)
    (nested : Bool) : Matcher → Option Verdict
  | .directive directive => directiveVerdict? mode text offset nested directive
  | .rule rule => ruleVerdict? rounds mode text offset rule

/-- The verdict of the first matcher that finds something (the matchers in `LineRun.main_loop`). -/
def firstVerdict? (rounds : Nat) (mode : Mode) (text : List Char) (offset : Nat) :
    List Matcher → Option Verdict
  | [] => some .declined
  | matcher :: matchers => do
    let verdict ← matcherVerdict? rounds mode text offset false matcher
    match verdict with
    | .declined => firstVerdict? rounds mode text offset matchers
    | verdict => some verdict

/-- The width and the tagging of the first match in a delegated range (the matchers in
`LineRun.run_range`). -/
def firstClaim? (rounds : Nat) (mode : Mode) (text : List Char) (offset : Nat) :
    List Matcher → Option (Option (Nat × List Painting))
  | [] => some none
  | matcher :: matchers => do
    let verdict ← matcherVerdict? rounds mode text offset true matcher
    match verdict with
    | .taken width actions => some (some (width, actions.filterMap Action.painting?))
    | .endsLine actions =>
      some (some (byteLength text - offset, actions.filterMap Action.painting?))
    | _ => firstClaim? rounds mode text offset matchers

/-- The start of a line in a documentation part (`LineRun.restart_doc_part`). -/
def resumeDocPart? (text : List Char) : Option Resumption := do
  let language ← startsWithWord? text "@language"
  if language then (languageDirective? text).map fun (stop, actions) => .at stop actions
  else do
    let c ← startsWithWord? text "@c"
    if c then some (.at (width "@c") [paintDirective 0 (width "@c"), .close])
    else do
      let code ← startsWithWord? text "@code"
      if code then some (.at (width "@code") [paintDirective 0 (width "@code"), .close])
      else
        some (.done [
          .arm .docPart, .paint { start := 0, stop := byteLength text, tag := .docPart }])

/-- The start of a line after `@color` (`LineRun.restart_color`). -/
def resumeColor? (text : List Char) : Option Resumption := do
  let killColor ← startsWithWord? text "@killcolor"
  if killColor then some (.done [.arm .killColor])
  else do
    let noColorNode ← startsWithWord? text "@nocolor-node"
    if noColorNode then some (.done [.arm .noColorNode])
    else do
      let noColor ← startsWithWord? text "@nocolor"
      some (if noColor then .done [.arm .noColor] else .at 0 [.arm .color])

/-- The start of a line after `@nocolor` (`LineRun.restart_no_color`). -/
def resumeNoColor? (text : List Char) : Option Resumption := do
  let color ← startsWithWord? text "@color"
  some (if color then .at (width "@color") [.arm .color, paintDirective 0 (width "@color")]
    else .done [.arm .noColor])

/-- What becomes of a line at its start, by what is open there (`LineRun.restart`). -/
def resume? (rounds : Nat) (mode : Mode) (text : List Char) : Restart → Option Resumption
  | .clear => some (.at 0 [])
  | .span form => resumeSpan? rounds mode text form
  | .docPart => resumeDocPart? text
  | .color => resumeColor? text
  | .noColor => resumeNoColor? text
  | .noColorNode => some (.done [.arm .noColorNode])
  | .killColor => some (.done [.arm .killColor])

variable {text : List Char} {column : Nat} {mode : Mode} {rounds : Nat} {nested : Bool}

/-! ## Directive words -/

/-- A word at the start of a line ends behind its bytes. -/
theorem byteOffset_word {word : String} (starts : Line.startsWithWord text word) :
    byteOffset text word.length = width word := by
  have ends : byteOffset text (0 + word.toList.length) = _ :=
    byteOffset_of_isPrefixOf
      (List.isPrefixOf_iff_prefix.mpr (Line.prefix_of_startsWithWord starts))
  rwa [Nat.zero_add, byteOffset_zero, Nat.zero_add, String.length_toList] at ends

theorem paintDirective_inBytes (text : List Char) (start stop : Nat) :
    actionInBytes text (paintDirective start stop) =
      paintDirective (byteOffset text start) (byteOffset text stop) := rfl

theorem languageDirective?_eq (starts : Line.startsWithWord text "@language") :
    languageDirective? text = some (byteOffset text (Line.languageDirective text).1,
      (Line.languageDirective text).2.map (actionInBytes text)) := by
  unfold languageDirective? Line.languageDirective
  rw [← byteOffset_word starts]
  generalize "@language".length = behind
  have order : Line.skipBlanks text behind ≤
      Line.skipIdentifier text (Line.skipBlanks text behind) := Nat.le_add_right ..
  have blanks : skipWhile? Line.isBlank text (byteOffset text behind) =
      some (byteOffset text (Line.skipBlanks text behind)) := skipWhile?_eq ..
  have name : skipWhile? Unicode.isIdentifierCharacter text
        (byteOffset text (Line.skipBlanks text behind)) =
      some (byteOffset text (Line.skipIdentifier text (Line.skipBlanks text behind))) :=
    skipWhile?_eq ..
  simp only [blanks, name, slice?_byteOffset text order, Option.bind_eq_bind, Option.bind_some]
  rfl

theorem docPartVerdict?_eq (text : List Char) :
    docPartVerdict? text = some (verdictInBytes text 0 (Line.docPartVerdict text)) := by
  have ended : ∀ inside, verdictInBytes text 0 (.endsLine [paintDirective 0 inside,
        .paint { start := inside, stop := text.length, tag := .docPart }, .arm .docPart]) =
      .endsLine [paintDirective 0 (byteOffset text inside), .paint {
        start := byteOffset text inside, stop := byteLength text, tag := .docPart },
        .arm .docPart] := by
    intro inside
    rw [← byteOffset_length]
    rfl
  simp only [docPartVerdict?, docPartOpening?, Line.docPartVerdict, startsWithWord?_eq,
    Option.bind_eq_bind, Option.bind_some]
  by_cases isDoc : Line.startsWithWord text "@doc"
  · simp only [isDoc, if_true, Option.bind_some, ended, byteOffset_word isDoc]
  · rw [if_neg isDoc, if_neg isDoc]
    cases text with
    | nil => rfl
    | cons c rest =>
      by_cases sign : c = '@'
      · subst sign
        have behind : from? ('@' :: rest) 1 = some rest := from?_byteOffset ('@' :: rest) 1
        simp only [List.head?_cons, if_true, behind, Option.map_some, Option.bind_some]
        cases rest.head?.all Line.isBlank with
        | true => exact congrArg some (ended 1).symm
        | false => rfl
      · have other : (c :: rest).head? ≠ some '@' := by simpa using sign
        rw [if_neg other]
        split
        · rfl
        · rename_i opening
          split at opening
          · rename_i same
            exact absurd (List.cons.inj same).1 sign
          · cases opening

/-! ## Words behind `@` -/

/-- The blank behind a word is taken along, if there is one. -/
theorem throughBlank_inBytes {stop : Nat} (later : column < stop) (onLine : stop ≤ text.length)
    (blank : (Text.charAt? text stop).any (fun c => !Line.isBlank c) = false) :
    min (byteOffset text stop - byteOffset text column + 1)
        (byteLength text - byteOffset text column) =
      byteOffset text (column + min (stop - column + 1) (text.length - column)) -
        byteOffset text column := by
  have order := byteOffset_mono text (Nat.le_of_lt later)
  rcases Nat.eq_or_lt_of_le onLine with rfl | inside
  · rw [show column + min (text.length - column + 1) (text.length - column) = text.length by omega,
      byteOffset_length]
    omega
  · have here := List.drop_eq_getElem_cons inside
    have present : Text.charAt? text stop = some text[stop] := by
      rw [Text.charAt?, here]
      rfl
    have isBlank : Line.isBlank text[stop] := by
      rw [present, Option.any_some, Bool.not_eq_false'] at blank
      exact blank
    have size : text[stop].utf8Size = 1 := by
      rcases Bool.or_eq_true _ _ ▸ isBlank with space | tab
      · rw [eq_of_beq space]
        rfl
      · rw [eq_of_beq tab]
        rfl
    have next := byteOffset_succ here
    have bound := byteOffset_le_byteLength text (stop + 1)
    rw [show column + min (stop - column + 1) (text.length - column) = stop + 1 by omega, next]
    omega

theorem leoKeywordsVerdict?_eq (sign : Text.charAt? text column = some '@') :
    leoKeywordsVerdict? mode text (byteOffset text column) =
      some (verdictInBytes text column (Line.leoKeywordsVerdict mode text column)) := by
  have next : byteOffset text column + 1 = byteOffset text (column + 1) :=
    (byteOffset_succ (drop_of_charAt? sign)).symm
  have onLine : column + 1 ≤ text.length := lt_length_of_charAt? sign
  unfold leoKeywordsVerdict? Line.leoKeywordsVerdict
  rw [upTo?_byteOffset, next, skipWhile?_eq]
  have later : column + 1 ≤ Line.skipWhile (fun c => mode.wordChars.contains c || c == '-') text
    (column + 1) := Nat.le_add_right ..
  have stopOnLine := skipWhile_le (fun c => mode.wordChars.contains c || c == '-') onLine
  generalize Line.skipWhile (fun c => mode.wordChars.contains c || c == '-') text (column + 1) =
    stop at later stopOnLine ⊢
  simp only [Option.bind_eq_bind, Option.bind_some, from?_byteOffset,
    slice?_byteOffset text later, slice?_byteOffset text (Nat.le_of_succ_le later)]
  split
  · rfl
  · change (if (Text.charAt? text stop).any _ then _ else _) = _
    split
    · rfl
    · rename_i blank
      have taken := throughBlank_inBytes later stopOnLine (Bool.eq_false_iff.mpr blank)
      rw [taken]
      split
      · rfl
      · cases mode.keyword? ((text.take stop).drop column) with
        | some tag =>
          simp only [takenTo_inBytes (Nat.le_of_succ_le later)]
          rfl
        | none => rfl

/-! ## Sections and addresses -/

theorem sectionRefVerdict?_eq (text : List Char) (column : Nat) :
    sectionRefVerdict? text (byteOffset text column) =
      some (verdictInBytes text column (Line.sectionRefVerdict text column)) := by
  have occurrence := offsetOf?_eq ['>', '>'] text (column + 2)
  unfold sectionRefVerdict? Line.sectionRefVerdict
  rw [from?_byteOffset, Option.bind_eq_bind, Option.bind_some]
  by_cases opens : ['<', '<'].isPrefixOf (text.drop column)
  · have inside : byteOffset text (column + 2) = byteOffset text column + 2 :=
      byteOffset_of_isPrefixOf opens
    rw [if_pos opens, if_pos opens, ← inside, from?_byteOffset, Option.bind_some]
    cases found : Line.find? ['>', '>'] text (column + 2) with
    | none =>
      rw [found, Option.map_none, Option.map_eq_none_iff] at occurrence
      rw [occurrence]
      rfl
    | some closing =>
      rw [found, Option.map_some, Option.map_eq_some_iff] at occurrence
      obtain ⟨ahead, occurs, same⟩ := occurrence
      obtain ⟨behind, here⟩ := find?_prefix found
      have stop : byteOffset text (closing + 2) = byteOffset text closing + 2 :=
        byteOffset_of_isPrefixOf here
      simp only [occurs, same, takenTo_inBytes (show column ≤ closing + 2 by omega), ← stop]
      rfl
  · rw [if_neg opens, if_neg opens]
    rfl

theorem urlVerdict?_eq (text : List Char) (column : Nat) :
    directiveVerdict? mode text (byteOffset text column) nested .url =
      some (verdictInBytes text column (Line.directiveVerdict mode text column nested .url)) := by
  have bound := lengthAtStart_le (text.drop column)
  have ends : byteOffset text column + (byteOffset text
        (column + Line.Url.lengthAtStart (text.drop column)) - byteOffset text column) =
      byteOffset text (column + Line.Url.lengthAtStart (text.drop column)) :=
    Nat.add_sub_cancel' (byteOffset_mono text (Nat.le_add_right ..))
  rw [List.length_drop] at bound
  simp only [directiveVerdict?, Line.directiveVerdict, urlWidth?_eq, Option.bind_eq_bind,
    Option.bind_some, ends]
  by_cases none : Line.Url.lengthAtStart (text.drop column) = 0
  · simp [none, verdictInBytes]
  · have some : column < text.length := by omega
    simp only [byteWidth_eq_zero_iff
      (show column + Line.Url.lengthAtStart (text.drop column) ≤ text.length by omega), none,
      if_false]
    rfl

/-! ## The start of a line -/

theorem wordVerdict?_eq {text : List Char} {word : String} {verdict bytes : Verdict}
    (same : Line.startsWithWord text word → bytes = verdictInBytes text 0 verdict) :
    wordVerdict? text word bytes = some (verdictInBytes text 0
      (if Line.startsWithWord text word then verdict else .declined)) := by
  rw [wordVerdict?, startsWithWord?_eq, Option.map_some]
  split
  · rename_i starts
    rw [same starts]
  · rfl

/-- A match from the start of a line up to a column, in bytes. -/
theorem takenFromStart_inBytes (text : List Char) (stop : Nat) (actions : List Action) :
    verdictInBytes text 0 (.taken stop actions) =
      .taken (byteOffset text stop) (actions.map (actionInBytes text)) := by
  rw [verdictInBytes, Nat.zero_add, byteOffset_zero, Nat.sub_zero]

theorem lineStartVerdict?_eq (text : List Char) (directive : Directive) :
    lineStartVerdict? text directive =
      some (verdictInBytes text 0 (Line.lineStartVerdict text directive)) := by
  cases directive with
  | docPart => exact docPartVerdict?_eq text
  | wrap =>
    rw [lineStartVerdict?, Line.lineStartVerdict, startsWithWord?_eq, Option.bind_eq_bind,
      Option.bind_some]
    split
    · rename_i starts
      have blanks : skipWhile? Line.isBlank text (width "@wrap") =
          some (byteOffset text (Line.skipBlanks text "@wrap".length)) := by
        rw [← byteOffset_word starts]
        exact skipWhile?_eq ..
      rw [blanks]
      exact congrArg some (takenFromStart_inBytes text _ [paintDirective 0 _]).symm
    · rfl
  | noColorNode => exact wordVerdict?_eq fun _ => rfl
  | noColor =>
    rw [lineStartVerdict?, Line.lineStartVerdict]
    cases "@nocolor-".toList.isPrefixOf text with
    | true => rfl
    | false => exact wordVerdict?_eq fun _ => rfl
  | language =>
    rw [lineStartVerdict?, Line.lineStartVerdict, startsWithWord?_eq, Option.bind_eq_bind,
      Option.bind_some]
    split
    · rename_i starts
      rw [languageDirective?_eq starts, Option.map_some]
      exact congrArg some (takenFromStart_inBytes ..).symm
    · rfl
  | killColor => exact wordVerdict?_eq fun _ => rfl
  | color =>
    refine wordVerdict?_eq fun starts => ?_
    rw [takenFromStart_inBytes, byteOffset_word starts, List.map_cons, List.map_singleton,
      paintDirective_inBytes, byteOffset_word starts]
    rfl
  | leoKeywords => rfl
  | sectionRef => rfl
  | url => rfl

/-! ## Matchers -/

/-- What is asked of a matcher at a character for its cuts to be on the line: a rule opens with
something, and the words behind `@` are tried at that character. -/
def FitsAt (c : Char) : Matcher → Prop
  | .directive .leoKeywords => c = '@'
  | .directive _ => True
  | .rule rule => SomeRule rule

/-- The matchers of modes are tried where they can be. -/
theorem fitsAt_ofMatchers : OfMatchers FitsAt where
  rule := fun _ ignoreCase spec => someRule_compile ignoreCase spec
  atSign := by
    intro directive _
    cases directive <;> first | exact rfl | exact trivial
  sectionRef := trivial
  url := fun _ _ => trivial

theorem directiveVerdict?_eq {c : Char} {directive : Directive}
    (fits : FitsAt c (.directive directive)) (present : Text.charAt? text column = some c) :
    directiveVerdict? mode text (byteOffset text column) nested directive =
      some (verdictInBytes text column
        (Line.directiveVerdict mode text column nested directive)) := by
  have onLine := Nat.le_of_lt (lt_length_of_charAt? present)
  have atStart : (byteOffset text column = 0) ↔ column = 0 :=
    byteOffset_eq_iff onLine (Nat.zero_le _)
  have onlyAtStart : ∀ directive,
      (if byteOffset text column = 0 && !nested then lineStartVerdict? text directive
        else some .declined) =
      some (verdictInBytes text column
        (if column = 0 && !nested then Line.lineStartVerdict text directive else .declined)) := by
    intro directive
    by_cases start : column = 0
    · subst start
      rw [lineStartVerdict?_eq]
      cases nested <;> rfl
    · have bytes : byteOffset text column ≠ 0 := fun same => start (atStart.mp same)
      simp [start, bytes, verdictInBytes]
  cases directive with
  | leoKeywords =>
    cases fits
    exact leoKeywordsVerdict?_eq present
  | sectionRef => exact sectionRefVerdict?_eq text column
  | url => exact urlVerdict?_eq text column
  | _ => exact onlyAtStart _

theorem matcherVerdict?_eq {c : Char} {matcher : Matcher} (fits : FitsAt c matcher)
    (present : Text.charAt? text column = some c) (enough : text.length + 2 ≤ rounds) :
    matcherVerdict? rounds mode text (byteOffset text column) nested matcher =
      some (verdictInBytes text column (Line.matcherVerdict mode text column nested matcher)) := by
  cases matcher with
  | directive directive => exact directiveVerdict?_eq fits present
  | rule rule => exact ruleVerdict?_eq fits (lt_length_of_charAt? present) enough

theorem firstVerdict?_eq {c : Char} {matchers : List Matcher}
    (fit : ∀ matcher ∈ matchers, FitsAt c matcher) (present : Text.charAt? text column = some c)
    (enough : text.length + 2 ≤ rounds) :
    firstVerdict? rounds mode text (byteOffset text column) matchers =
      some (verdictInBytes text column (Line.firstVerdict mode text column matchers)) := by
  induction matchers with
  | nil => rfl
  | cons matcher matchers ih =>
    have others := ih fun other member => fit other (List.mem_cons_of_mem _ member)
    rw [firstVerdict?, matcherVerdict?_eq (fit matcher List.mem_cons_self) present enough,
      Option.bind_eq_bind, Option.bind_some, Line.firstVerdict]
    cases Line.matcherVerdict mode text column false matcher with
    | declined => exact others
    | passed width => rfl
    | taken width actions => rfl
    | endsLine actions => rfl

/-- A claim at a column, in bytes. -/
def claimInBytes (text : List Char) (column : Nat) (claim : Nat × List Painting) :
    Nat × List Painting :=
  (byteOffset text (column + claim.1) - byteOffset text column,
    claim.2.map (paintingInBytes text))

theorem filterMap_painting?_inBytes (text : List Char) (actions : List Action) :
    (actions.map (actionInBytes text)).filterMap Action.painting? =
      (actions.filterMap Action.painting?).map (paintingInBytes text) := by
  induction actions with
  | nil => rfl
  | cons action actions ih =>
    cases action with
    | paint painting => exact congrArg (paintingInBytes text painting :: ·) ih
    | arm restart => exact ih
    | close => exact ih
    | switchLanguage name => exact ih

theorem firstClaim?_eq {c : Char} {matchers : List Matcher}
    (fit : ∀ matcher ∈ matchers, FitsAt c matcher) (present : Text.charAt? text column = some c)
    (enough : text.length + 2 ≤ rounds) :
    firstClaim? rounds mode text (byteOffset text column) matchers =
      some ((Line.firstClaim? mode text column matchers).map (claimInBytes text column)) := by
  induction matchers with
  | nil => rfl
  | cons matcher matchers ih =>
    have others := ih fun other member => fit other (List.mem_cons_of_mem _ member)
    rw [firstClaim?, matcherVerdict?_eq (fit matcher List.mem_cons_self) present enough,
      Option.bind_eq_bind, Option.bind_some, Line.firstClaim?]
    cases Line.matcherVerdict mode text column true matcher with
    | declined => exact others
    | passed width => exact others
    | taken width actions =>
      simp only [verdictInBytes, filterMap_painting?_inBytes]
      rfl
    | endsLine actions =>
      have onLine := lt_length_of_charAt? present
      simp only [verdictInBytes, filterMap_painting?_inBytes, Option.map_some, claimInBytes,
        Nat.add_sub_cancel' (Nat.le_of_lt onLine), byteOffset_length]

/-! ## Progress -/

theorem lineStartVerdict_moves (text : List Char) (directive : Directive) :
    Moves (Line.lineStartVerdict text directive) := by
  have behind : ∀ stop, stop ≤ Line.skipBlanks text stop := fun _ => Nat.le_add_right ..
  cases directive with
  | docPart =>
    rw [Line.lineStartVerdict]
    unfold Line.docPartVerdict
    dsimp only
    split <;> exact trivial
  | wrap =>
    rw [Line.lineStartVerdict]
    split
    · exact Nat.lt_of_lt_of_le (by decide) (behind "@wrap".length)
    · exact trivial
  | language =>
    rw [Line.lineStartVerdict]
    split
    · exact Nat.lt_of_lt_of_le (Nat.lt_of_lt_of_le (by decide) (behind "@language".length))
        (Nat.le_add_right ..)
    · exact trivial
  | color =>
    rw [Line.lineStartVerdict]
    split
    · exact (by decide : 0 < "@color".length)
    · exact trivial
  | noColor | noColorNode | killColor =>
    rw [Line.lineStartVerdict]
    split <;> exact trivial
  | leoKeywords | sectionRef | url => exact trivial

theorem leoKeywordsVerdict_moves (onLine : column < text.length) :
    Moves (Line.leoKeywordsVerdict mode text column) := by
  unfold Line.leoKeywordsVerdict
  split
  · exact trivial
  · have later : column + 1 ≤ Line.skipWhile (fun c => mode.wordChars.contains c || c == '-') text
      (column + 1) := Nat.le_add_right ..
    generalize Line.skipWhile (fun c => mode.wordChars.contains c || c == '-') text (column + 1) =
      stop at later ⊢
    have forward : 0 < stop - column := by omega
    have blank : 0 < min (stop - column + 1) (text.length - column) := by omega
    dsimp only
    split
    · exact trivial
    · split
      · exact blank
      · split
        · exact forward
        · exact blank

theorem directiveVerdict_moves (onLine : column < text.length) (directive : Directive) :
    Moves (Line.directiveVerdict mode text column nested directive) := by
  have onlyAtStart : ∀ directive,
      Moves
        (if column = 0 && !nested then Line.lineStartVerdict text directive else .declined) := by
    intro directive
    split
    · exact lineStartVerdict_moves text directive
    · exact trivial
  cases directive with
  | leoKeywords => exact leoKeywordsVerdict_moves onLine
  | sectionRef =>
    rw [Line.directiveVerdict, Line.sectionRefVerdict]
    split
    · cases found : Line.find? ['>', '>'] text (column + 2) with
      | none => exact trivial
      | some closing =>
        obtain ⟨behind, -⟩ := find?_prefix found
        exact Nat.sub_pos_of_lt (by omega)
    · exact trivial
  | url =>
    rw [Line.directiveVerdict]
    split
    · exact trivial
    · rename_i some
      exact Nat.pos_of_ne_zero some
  | _ => exact onlyAtStart _

theorem matcherVerdict_moves {c : Char} {matcher : Matcher} (fits : FitsAt c matcher)
    (onLine : column < text.length) :
    Moves (Line.matcherVerdict mode text column nested matcher) := by
  cases matcher with
  | directive directive => exact directiveVerdict_moves onLine directive
  | rule rule => exact ruleVerdict_moves fits onLine

/-- What is taken at a place of a line is at least one character. -/
theorem firstVerdict_moves {c : Char} {matchers : List Matcher}
    (fit : ∀ matcher ∈ matchers, FitsAt c matcher) (onLine : column < text.length) :
    Moves (Line.firstVerdict mode text column matchers) := by
  induction matchers with
  | nil => exact trivial
  | cons matcher matchers ih =>
    rw [Line.firstVerdict]
    split
    · exact ih fun other member => fit other (List.mem_cons_of_mem _ member)
    · exact matcherVerdict_moves (fit matcher List.mem_cons_self) onLine

/-- What is claimed at a place of a line is at least one character. -/
theorem firstClaim?_moves {c : Char} {matchers : List Matcher} {claim : Nat × List Painting}
    (fit : ∀ matcher ∈ matchers, FitsAt c matcher) (onLine : column < text.length)
    (claims : Line.firstClaim? mode text column matchers = some claim) : 0 < claim.1 := by
  obtain ⟨matcher, listed, actions, -, verdict⟩ := Line.firstClaim?_cases claims
  rcases verdict with taken | ⟨-, length⟩
  · have moves : Moves (Line.matcherVerdict mode text column true matcher) :=
      matcherVerdict_moves (fit matcher listed) onLine
    rw [taken] at moves
    exact moves
  · rw [length]
    exact Nat.sub_pos_of_lt onLine

/-! ## Resuming -/

theorem resumeDocPart?_eq (text : List Char) :
    resumeDocPart? text = some (resumptionInBytes text (Line.resumeDocPart text)) := by
  have closed : ∀ {word : String}, Line.startsWithWord text word →
      resumptionInBytes text (.at word.length [paintDirective 0 word.length, .close]) =
        .at (width word) [paintDirective 0 (width word), .close] := by
    intro word starts
    rw [← byteOffset_word starts]
    rfl
  simp only [resumeDocPart?, Line.resumeDocPart, startsWithWord?_eq, Option.bind_eq_bind,
    Option.bind_some]
  by_cases language : Line.startsWithWord text "@language"
  · rw [if_pos language, if_pos language, languageDirective?_eq language]
    rfl
  · rw [if_neg language, if_neg language]
    by_cases c : Line.startsWithWord text "@c"
    · rw [if_pos c, if_pos c, closed c]
    · rw [if_neg c, if_neg c]
      by_cases code : Line.startsWithWord text "@code"
      · rw [if_pos code, if_pos code, closed code]
      · rw [if_neg code, if_neg code, ← byteOffset_length]
        rfl

theorem resumeColor?_eq (text : List Char) :
    resumeColor? text = some (resumptionInBytes text (Line.resumeColor text)) := by
  simp only [resumeColor?, Line.resumeColor, startsWithWord?_eq, Option.bind_eq_bind,
    Option.bind_some]
  split
  · rfl
  · split
    · rfl
    · split <;> rfl

theorem resumeNoColor?_eq (text : List Char) :
    resumeNoColor? text = some (resumptionInBytes text (Line.resumeNoColor text)) := by
  simp only [resumeNoColor?, Line.resumeNoColor, startsWithWord?_eq, Option.bind_eq_bind,
    Option.bind_some]
  split
  · rename_i color
    rw [← byteOffset_word color]
    rfl
  · rfl

theorem resume?_eq (enough : text.length + 2 ≤ rounds) (restart : Restart) :
    resume? rounds mode text restart =
      some (resumptionInBytes text (Line.resume mode text restart)) := by
  cases restart with
  | clear => rfl
  | span form => exact resumeSpan?_eq enough form
  | docPart => exact resumeDocPart?_eq text
  | color => exact resumeColor?_eq text
  | noColor => exact resumeNoColor?_eq text
  | noColorNode => rfl
  | killColor => rfl

end Highlighter.Guarded
